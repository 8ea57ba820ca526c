import LintRun.Proofs.Json.Printing
import LintRun.Proofs.Json.Tokens

/-!
# Reading written values

A written value is read back, whatever stands behind it and at whichever level it is written. Only
values whose text says what they are can be read back: those that hold no number but integers, and
nothing that is unreadable.

## Main definitions

* `Json.isReadable` holds of the values that can be read back.

## Main statements

* `readValue_render`: a value is read back, and what stands behind it is left.
* `parse_render_append`: a document is read back, and blanks may stand behind it.
-/

namespace LintRun.Json

mutual

/-- Whether a value can be read back. -/
def isReadable : Json → Bool
  | real _ => false
  | unreadable => false
  | array items => areReadable items
  | object members => haveReadable members
  | _ => true

/-- Whether all items of an array can be read back. -/
def areReadable : List Json → Bool
  | [] => true
  | item :: items => item.isReadable && areReadable items

/-- Whether the values of all members of an object can be read back. -/
def haveReadable : List (String × Json) → Bool
  | [] => true
  | (_, value) :: members => value.isReadable && haveReadable members

end

/-! ## Blanks -/

/-- A text of blanks. -/
def IsBlankRun (gap : List Char) : Prop :=
  ∀ c ∈ gap, isGap c = true

theorem isBlankRun_newLine (level : Nat) : IsBlankRun (newLine level).toList := by
  intro c hc
  have htext : (newLine level).toList = '\n' :: List.replicate (2 * level) ' ' := by
    simp [newLine]
  rw [htext, List.mem_cons, List.mem_replicate] at hc
  rcases hc with rfl | ⟨-, rfl⟩ <;> rfl

theorem length_newLine (level : Nat) : (newLine level).toList.length = 2 * level + 1 := by
  simp [newLine]

section Blanks

variable {gap : List Char} (h : IsBlankRun gap)

include h

theorem skipGap_append (s : List Char) : skipGap (gap ++ s) = skipGap s :=
  List.dropWhile_append_of_pos h

theorem readValue_append (steps : Nat) (s : List Char) :
    readValue steps (gap ++ s) = readValue steps s := by
  cases steps with
  | zero => rfl
  | succ steps => rw [readValue, readValue, skipGap_append h]

theorem readItems_append (steps : Nat) (s : List Char) :
    readItems steps (gap ++ s) = readItems steps s := by
  cases steps with
  | zero => rfl
  | succ steps => rw [readItems, readItems, readValue_append h]

theorem readKey_append (s : List Char) : readKey (gap ++ s) = readKey s := by
  rw [readKey, readKey, skipGap_append h]

theorem readMembers_append (steps : Nat) (s : List Char) :
    readMembers steps (gap ++ s) = readMembers steps s := by
  cases steps with
  | zero => rfl
  | succ steps => rw [readMembers, readMembers, readKey_append h]

/-- Behind a number blanks may stand, and a bracket behind these. -/
theorem endsNumber_append {c : Char} (hc : continuesNumber c = false) (rest : List Char) :
    EndsNumber (gap ++ c :: rest) := by
  cases gap with
  | nil => exact endsNumber_cons hc rest
  | cons d gap =>
    refine endsNumber_cons ?_ _
    have hd := h d List.mem_cons_self
    simp only [isGap, Bool.or_eq_true, decide_eq_true_eq] at hd
    rcases hd with ((rfl | rfl) | rfl) | rfl <;> rfl

end Blanks

theorem readValue_blank (steps : Nat) (s : List Char) :
    readValue steps (' ' :: s) = readValue steps s := by
  have hblank : IsBlankRun [' '] := by
    rintro c hc
    rw [List.mem_singleton.1 hc]
    rfl
  exact readValue_append hblank steps s

theorem skipGap_cons {c : Char} (h : isGap c = false) (s : List Char) :
    skipGap (c :: s) = c :: s := by
  simp [skipGap, h]

/-- Blanks are skipped up to where the rest starts. -/
theorem exists_isBlankRun (s : List Char) : ∃ gap, IsBlankRun gap ∧ s = gap ++ skipGap s :=
  ⟨s.takeWhile isGap, fun _ hc => List.mem_takeWhile_imp hc, List.takeWhile_append_dropWhile.symm⟩

theorem readItems_skipGap (steps : Nat) (s : List Char) :
    readItems steps (skipGap s) = readItems steps s := by
  obtain ⟨gap, hgap, hs⟩ := exists_isBlankRun s
  conv_rhs => rw [hs, readItems_append hgap]

theorem readMembers_skipGap (steps : Nat) (s : List Char) :
    readMembers steps (skipGap s) = readMembers steps s := by
  obtain ⟨gap, hgap, hs⟩ := exists_isBlankRun s
  conv_rhs => rw [hs, readMembers_append hgap]

/-! ## First characters -/

/-- What a written value starts with is no blank, and does not end an array. -/
theorem exists_toList_render {v : Json} (hv : v.isReadable) (level : Nat) : ∃ c rest,
    (render level v).toList = c :: rest ∧ isGap c = false ∧ c ≠ ']' := by
  cases v with
  | null => exact ⟨'n', _, by rw [render]; rfl, rfl, by decide⟩
  | bool b => cases b <;> exact ⟨_, _, by rw [render]; rfl, rfl, by decide⟩
  | int i =>
    obtain ⟨c, s, htext, hc⟩ := exists_toList_toString i
    refine ⟨c, s, by rw [render, htext], ?_⟩
    rcases hc with rfl | hc
    · exact ⟨rfl, by decide⟩
    · have hne : ∀ d : Char, d.isDigit = false → c ≠ d := by
        rintro d hd rfl
        rw [hc] at hd
        cases hd
      have hgap : isGap c = false := by
        simp [isGap, hne ' ' rfl, hne '\n' rfl, hne '\t' rfl, hne '\r' rfl]
      exact ⟨hgap, hne ']' rfl⟩
  | string s =>
    have htext := toList_renderString s []
    rw [List.append_nil] at htext
    exact ⟨'"', _, by rw [render, htext], rfl, by decide⟩
  | array items =>
    by_cases hitems : items = []
    · subst hitems
      exact ⟨'[', _, by rw [render]; rfl, rfl, by decide⟩
    · have htext := toList_render_array level hitems []
      rw [List.append_nil] at htext
      exact ⟨'[', _, htext, rfl, by decide⟩
  | object members =>
    by_cases hmembers : members = []
    · subst hmembers
      exact ⟨'{', _, by rw [render]; rfl, rfl, by decide⟩
    · have htext := toList_render_object level hmembers []
      rw [List.append_nil] at htext
      exact ⟨'{', _, htext, rfl, by decide⟩
  | real literal => cases hv
  | unreadable => cases hv

/-- The items of an array do not start with its closing bracket. -/
theorem skipGap_renderItems_ne {items : List Json} (hne : items ≠ []) (hitems : areReadable items)
    (level : Nat) (rest s : List Char) :
    skipGap ((renderItems level items).toList ++ rest) ≠ ']' :: s := by
  obtain ⟨item, more, rfl⟩ := List.exists_cons_of_ne_nil hne
  rw [areReadable, Bool.and_eq_true] at hitems
  obtain ⟨c, behind, htext, hgap, hc⟩ := exists_toList_render hitems.1 level
  have hskip : ∃ tail,
      skipGap ((renderItems level (item :: more)).toList ++ rest) = c :: tail := by
    cases more with
    | nil =>
      rw [toList_renderItems_singleton, skipGap_append (isBlankRun_newLine level), htext]
      exact ⟨_, skipGap_cons hgap _⟩
    | cons next more =>
      rw [toList_renderItems_cons, skipGap_append (isBlankRun_newLine level), htext]
      exact ⟨_, skipGap_cons hgap _⟩
  obtain ⟨tail, htail⟩ := hskip
  rw [htail]
  rintro ⟨⟩
  exact hc rfl

/-- The members of an object do not start with its closing brace. -/
theorem skipGap_renderMembers_ne {members : List (String × Json)} (hne : members ≠ [])
    (level : Nat) (rest s : List Char) :
    skipGap ((renderMembers level members).toList ++ rest) ≠ '}' :: s := by
  have hskip : ∃ tail,
      skipGap ((renderMembers level members).toList ++ rest) = '"' :: tail := by
    match members with
    | [] => exact absurd rfl hne
    | [(key, value)] =>
      rw [toList_renderMembers_singleton, skipGap_append (isBlankRun_newLine level),
        toList_renderString]
      exact ⟨_, skipGap_cons rfl _⟩
    | (key, value) :: next :: members =>
      rw [toList_renderMembers_cons, skipGap_append (isBlankRun_newLine level),
        toList_renderString]
      exact ⟨_, skipGap_cons rfl _⟩
  obtain ⟨tail, htail⟩ := hskip
  rw [htail]
  rintro ⟨⟩

/-! ## Reading parts -/

theorem readKey_renderString (key : String) (rest : List Char) :
    readKey ((renderString key).toList ++ ':' :: rest) = some (some key.toList, rest) := by
  have hcolon : skipGap (':' :: rest) = ':' :: rest := skipGap_cons rfl rest
  rw [toList_renderString, readKey, skipGap_cons rfl]
  simp only [readString_flatMap_escapeChar, Option.bind_eq_bind, Option.bind_some, hcolon]
  rfl

/-- A value that starts like a number is read as one. -/
theorem readValue_cons {c : Char} (hc : c = '-' ∨ c.isDigit = true) (steps : Nat)
    (s : List Char) : readValue (steps + 1) (c :: s) = readNumber (c :: s) := by
  have hne : ∀ d : Char, d ≠ '-' → d.isDigit = false → c ≠ d := by
    rintro d hminus hdigit rfl
    rcases hc with hc | hc
    · exact hminus hc
    · rw [hc] at hdigit
      cases hdigit
  have hgap : isGap c = false := by
    simp [isGap, hne ' ' (by decide) rfl, hne '\n' (by decide) rfl, hne '\t' (by decide) rfl,
      hne '\r' (by decide) rfl]
  rw [readValue, skipGap_cons hgap]
  split
  · next h => exact absurd (List.cons.inj h).1 (hne 'n' (by decide) rfl)
  · next h => exact absurd (List.cons.inj h).1 (hne 't' (by decide) rfl)
  · next h => exact absurd (List.cons.inj h).1 (hne 'f' (by decide) rfl)
  · next h => exact absurd (List.cons.inj h).1 (hne '"' (by decide) rfl)
  · next h => exact absurd (List.cons.inj h).1 (hne '[' (by decide) rfl)
  · next h => exact absurd (List.cons.inj h).1 (hne '{' (by decide) rfl)
  · rfl

theorem readValue_of_readItems {steps : Nat} {items : List Json} {s rest : List Char}
    (h : readItems steps s = some (items, rest)) (hs : ∀ more, skipGap s ≠ ']' :: more) :
    readValue (steps + 1) ('[' :: s) = some (.array items, rest) := by
  rw [← readItems_skipGap] at h
  rw [readValue, skipGap_cons rfl]
  simp [h]

theorem readValue_of_readMembers {steps : Nat}
    {members : List (Option (List Char) × Json)} {s rest : List Char}
    (h : readMembers steps s = some (members, rest)) (hs : ∀ more, skipGap s ≠ '}' :: more) :
    readValue (steps + 1) ('{' :: s) = some (ofMembers members, rest) := by
  rw [← readMembers_skipGap] at h
  rw [readValue, skipGap_cons rfl]
  simp [h]

theorem ofMembers_map (members : List (String × Json)) :
    ofMembers (members.map fun (key, value) => (some key.toList, value)) = .object members := by
  have hmembers : (members.map fun member => (some member.1.toList, member.2)).mapM
      (fun member => member.1.map fun key => (String.ofList key, member.2)) = some members := by
    induction members with
    | nil => rfl
    | cons member members ih =>
      rw [List.map_cons, List.mapM_cons, ih]
      simp
  rw [ofMembers]
  split
  · next found hfound =>
    cases hfound.symm.trans hmembers
    rfl
  · next hnone => cases hnone.symm.trans hmembers

/-! ## Reading values -/

mutual

/-- A written value is read back if there is a step for each of its characters. What stands behind
it is left. -/
theorem readValue_render (v : Json) (hv : v.isReadable) (level steps : Nat)
    (rest : List Char) (hsteps : (render level v).toList.length ≤ steps)
    (hrest : EndsNumber rest) :
    readValue steps ((render level v).toList ++ rest) = some (v, rest) := by
  obtain ⟨c, s, htext, -⟩ := exists_toList_render hv level
  obtain ⟨steps, rfl⟩ : ∃ n, steps = n + 1 := by
    rw [htext, List.length_cons] at hsteps
    exact ⟨steps - 1, by omega⟩
  match v with
  | .null | .bool true | .bool false | .array [] | .object [] =>
    rw [render]
    rfl
  | .int i =>
    obtain ⟨c, s, hi, hc⟩ := exists_toList_toString i
    have hread := readNumber_toString i hrest
    rw [hi] at hread
    rw [render, hi, List.cons_append, readValue_cons hc]
    exact hread
  | .string s =>
    rw [render, toList_renderString, readValue, skipGap_cons rfl]
    simp [readString_flatMap_escapeChar, ofString]
  | .array (item :: items) =>
    have hlength := congrArg List.length
      (toList_render_array level (List.cons_ne_nil item items) [])
    simp only [List.append_nil, List.length_cons, List.length_append] at hlength
    have hread := readItems_renderItems (item :: items) (List.cons_ne_nil _ _) hv (level + 1)
      steps rest (by omega) (isBlankRun_newLine level)
    rw [toList_render_array level (List.cons_ne_nil _ _)]
    exact readValue_of_readItems hread (skipGap_renderItems_ne (List.cons_ne_nil _ _) hv _ _)
  | .object (member :: members) =>
    have hlength := congrArg List.length
      (toList_render_object level (List.cons_ne_nil member members) [])
    simp only [List.append_nil, List.length_cons, List.length_append] at hlength
    have hread := readMembers_renderMembers (member :: members) (List.cons_ne_nil _ _) hv
      (level + 1) steps rest (by omega) (isBlankRun_newLine level)
    rw [toList_render_object level (List.cons_ne_nil _ _)]
    rw [readValue_of_readMembers hread (skipGap_renderMembers_ne (List.cons_ne_nil _ _) _ _),
      ofMembers_map]

/-- The written items of an array are read back up to the closing bracket. -/
theorem readItems_renderItems (items : List Json) (hne : items ≠ []) (hitems : areReadable items)
    (level steps : Nat) {gap : List Char} (rest : List Char)
    (hsteps : (renderItems level items).toList.length ≤ steps) (hgap : IsBlankRun gap) :
    readItems steps ((renderItems level items).toList ++ (gap ++ ']' :: rest)) =
      some (items, rest) := by
  have hnewLine := length_newLine level
  match items with
  | [] => exact absurd rfl hne
  | [item] =>
    have hlength := congrArg List.length (toList_renderItems_singleton level item [])
    simp only [List.append_nil, List.length_append] at hlength
    obtain ⟨steps, rfl⟩ : ∃ n, steps = n + 1 := ⟨steps - 1, by omega⟩
    rw [areReadable, Bool.and_eq_true] at hitems
    have hread := readValue_render item hitems.1 level steps _ (by omega)
      (endsNumber_append hgap (c := ']') rfl rest)
    rw [toList_renderItems_singleton, readItems_append (isBlankRun_newLine level), readItems,
      hread]
    simp [skipGap_append hgap, skipGap_cons (c := ']') rfl]
  | item :: next :: items =>
    have hlength := congrArg List.length (toList_renderItems_cons level item next items [])
    simp only [List.append_nil, List.length_append, List.length_cons] at hlength
    obtain ⟨steps, rfl⟩ : ∃ n, steps = n + 1 := ⟨steps - 1, by omega⟩
    rw [areReadable, Bool.and_eq_true] at hitems
    have hread := readValue_render item hitems.1 level steps _ (by omega)
      (endsNumber_cons (c := ',') rfl
        ((renderItems level (next :: items)).toList ++ (gap ++ ']' :: rest)))
    have hmore := readItems_renderItems (next :: items) (List.cons_ne_nil _ _) hitems.2 level
      steps rest (by omega) hgap
    rw [toList_renderItems_cons, readItems_append (isBlankRun_newLine level), readItems, hread]
    simp [skipGap_cons (c := ',') rfl, hmore]

/-- The written members of an object are read back up to the closing brace. -/
theorem readMembers_renderMembers (members : List (String × Json)) (hne : members ≠ [])
    (hmembers : haveReadable members) (level steps : Nat) {gap : List Char} (rest : List Char)
    (hsteps : (renderMembers level members).toList.length ≤ steps) (hgap : IsBlankRun gap) :
    readMembers steps ((renderMembers level members).toList ++ (gap ++ '}' :: rest)) =
      some (members.map fun (key, value) => (some key.toList, value), rest) := by
  have hnewLine := length_newLine level
  match members with
  | [] => exact absurd rfl hne
  | [(key, value)] =>
    have hlength := congrArg List.length (toList_renderMembers_singleton level key value [])
    simp only [List.append_nil, List.length_append, List.length_cons] at hlength
    obtain ⟨steps, rfl⟩ : ∃ n, steps = n + 1 := ⟨steps - 1, by omega⟩
    rw [haveReadable, Bool.and_eq_true] at hmembers
    have hread := readValue_render value hmembers.1 level steps _ (by omega)
      (endsNumber_append hgap (c := '}') rfl rest)
    rw [toList_renderMembers_singleton, readMembers_append (isBlankRun_newLine level), readMembers,
      readKey_renderString]
    simp [readValue_blank, hread, skipGap_append hgap, skipGap_cons (c := '}') rfl]
  | (key, value) :: next :: members =>
    have hlength := congrArg List.length
      (toList_renderMembers_cons level key value next members [])
    simp only [List.append_nil, List.length_append, List.length_cons] at hlength
    obtain ⟨steps, rfl⟩ : ∃ n, steps = n + 1 := ⟨steps - 1, by omega⟩
    rw [haveReadable, Bool.and_eq_true] at hmembers
    have hread := readValue_render value hmembers.1 level steps _ (by omega)
      (endsNumber_cons (c := ',') rfl
        ((renderMembers level (next :: members)).toList ++ (gap ++ '}' :: rest)))
    have hmore := readMembers_renderMembers (next :: members) (List.cons_ne_nil _ _) hmembers.2
      level steps rest (by omega) hgap
    rw [toList_renderMembers_cons, readMembers_append (isBlankRun_newLine level), readMembers,
      readKey_renderString]
    simp [readValue_blank, hread, skipGap_cons (c := ',') rfl, hmore]

end

/-- A written document is read back, at whichever level it is written and if blanks follow. -/
theorem parse_render_append {v : Json} (hv : v.isReadable) (level : Nat) (gap : String)
    (hgap : IsBlankRun gap.toList) : parse (render level v ++ gap) = some v := by
  have hend : EndsNumber gap.toList := by
    have happend := endsNumber_append hgap (c := ']') rfl []
    intro c hc
    exact happend c (by rw [List.head?_append, hc]; rfl)
  have hskip : skipGap gap.toList = [] := by
    have happend := skipGap_append hgap []
    rw [List.append_nil] at happend
    exact happend
  have hread := readValue_render v hv level (2 * (render level v ++ gap).toList.length + 2)
    gap.toList (by rw [String.toList_append, List.length_append]; omega) hend
  rw [parse]
  simp only [String.toList_append] at hread ⊢
  simp only [hread, Option.bind_eq_bind, Option.bind_some, hskip]
  rfl

/-- A written document is read back. -/
theorem parse_render {v : Json} (hv : v.isReadable) (level : Nat) :
    parse (render level v) = some v := by
  have hread := parse_render_append hv level "" (by rintro c ⟨⟩)
  rwa [String.append_empty] at hread

end LintRun.Json
