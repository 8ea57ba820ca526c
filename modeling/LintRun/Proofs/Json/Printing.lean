import LintRun.Json.Printer

/-!
# Written values

The characters of a written value, bracket by bracket, and where the written forms of its parts
stand in it.

## Main definitions

* `Json.memberText` is the written form of a member.

## Main statements

* `render_infix_render_array`, `memberText_infix_render_object`: written parts stand in the whole.
-/

namespace LintRun.Json

/-! ## Written forms

Every form stands in front of some rest, because that is how it is read. -/

theorem toList_renderString (s : String) (rest : List Char) :
    (renderString s).toList ++ rest = '"' :: (s.toList.flatMap escapeChar ++ '"' :: rest) := by
  simp [renderString]

theorem toList_render_array (level : Nat) {items : List Json} (h : items ≠ [])
    (rest : List Char) : (render level (.array items)).toList ++ rest = '[' ::
      ((renderItems (level + 1) items).toList ++ ((newLine level).toList ++ ']' :: rest)) := by
  cases items with
  | nil => exact absurd rfl h
  | cons item items => simp [render]

theorem toList_render_object (level : Nat) {members : List (String × Json)} (h : members ≠ [])
    (rest : List Char) : (render level (.object members)).toList ++ rest = '{' ::
      ((renderMembers (level + 1) members).toList ++ ((newLine level).toList ++ '}' :: rest)) := by
  cases members with
  | nil => exact absurd rfl h
  | cons member members => simp [render]

theorem toList_renderItems_singleton (level : Nat) (item : Json) (rest : List Char) :
    (renderItems level [item]).toList ++ rest =
      (newLine level).toList ++ ((render level item).toList ++ rest) := by
  simp [renderItems]

theorem toList_renderItems_cons (level : Nat) (item next : Json) (items : List Json)
    (rest : List Char) : (renderItems level (item :: next :: items)).toList ++ rest =
      (newLine level).toList ++ ((render level item).toList ++
        ',' :: ((renderItems level (next :: items)).toList ++ rest)) := by
  simp [renderItems]

theorem toList_renderMembers_singleton (level : Nat) (key : String) (value : Json)
    (rest : List Char) : (renderMembers level [(key, value)]).toList ++ rest =
      (newLine level).toList ++
        ((renderString key).toList ++ ':' :: (' ' :: ((render level value).toList ++ rest))) := by
  simp [renderMembers]

theorem toList_renderMembers_cons (level : Nat) (key : String) (value : Json)
    (next : String × Json) (members : List (String × Json)) (rest : List Char) :
    (renderMembers level ((key, value) :: next :: members)).toList ++ rest =
      (newLine level).toList ++
        ((renderString key).toList ++ ':' :: (' ' :: ((render level value).toList ++
          ',' :: ((renderMembers level (next :: members)).toList ++ rest)))) := by
  simp [renderMembers]

theorem head?_render_array (level : Nat) (items : List Json) :
    (render level (.array items)).toList.head? = some '[' := by
  cases items with
  | nil => rw [render]; rfl
  | cons item items =>
    rw [← List.append_nil (render level _).toList, toList_render_array _ (List.cons_ne_nil _ _)]
    rfl

theorem head?_render_object (level : Nat) (members : List (String × Json)) :
    (render level (.object members)).toList.head? = some '{' := by
  cases members with
  | nil => rw [render]; rfl
  | cons member members =>
    rw [← List.append_nil (render level _).toList, toList_render_object _ (List.cons_ne_nil _ _)]
    rfl

/-! ## Parts -/

theorem render_infix_renderItems {item : Json} {items : List Json} (h : item ∈ items)
    (level : Nat) : (render level item).toList <:+: (renderItems level items).toList := by
  induction items with
  | nil => cases h
  | cons first items ih =>
    cases items with
    | nil =>
      have htext := toList_renderItems_singleton level first []
      rw [List.append_nil, List.append_nil] at htext
      rw [htext, List.mem_singleton.1 h]
      exact (List.suffix_append _ _).isInfix
    | cons next items =>
      have htext := toList_renderItems_cons level first next items []
      rw [List.append_nil, List.append_nil] at htext
      rw [htext]
      rcases List.mem_cons.1 h with rfl | h
      · exact List.infix_append' _ _ _
      · have hmore : (renderItems level (next :: items)).toList <:+
            ((newLine level).toList ++ (render level first).toList ++ [',']) ++
              (renderItems level (next :: items)).toList := List.suffix_append _ _
        simpa using (ih h).trans hmore.isInfix

theorem renderString_append_render_infix_renderMembers {key : String} {value : Json}
    {members : List (String × Json)} (h : (key, value) ∈ members) (level : Nat) :
    (renderString key).toList ++ ':' :: ' ' :: (render level value).toList <:+:
      (renderMembers level members).toList := by
  induction members with
  | nil => cases h
  | cons first members ih =>
    cases members with
    | nil =>
      have htext := toList_renderMembers_singleton level first.1 first.2 []
      rw [List.append_nil, List.append_nil] at htext
      rw [htext, ← List.mem_singleton.1 h]
      exact (List.suffix_append _ _).isInfix
    | cons next members =>
      have htext := toList_renderMembers_cons level first.1 first.2 next members []
      rw [List.append_nil, List.append_nil] at htext
      rw [htext]
      rcases List.mem_cons.1 h with rfl | h
      · exact ⟨(newLine level).toList, ',' :: (renderMembers level (next :: members)).toList,
          by simp⟩
      · have hmore : (renderMembers level (next :: members)).toList <:+
            ((newLine level).toList ++ (renderString first.1).toList ++ [':', ' '] ++
              (render level first.2).toList ++ [',']) ++
                (renderMembers level (next :: members)).toList := List.suffix_append _ _
        simpa using (ih h).trans hmore.isInfix

theorem render_infix_render_array {item : Json} {items : List Json} (h : item ∈ items)
    (level : Nat) :
    (render (level + 1) item).toList <:+: (render level (.array items)).toList := by
  have htext := toList_render_array level (List.ne_nil_of_mem h) []
  rw [List.append_nil] at htext
  rw [htext]
  exact List.infix_cons (List.infix_append_of_infix_left (render_infix_renderItems h _))

/-- The written form of a member, as it stands in an object at a level. -/
def memberText (level : Nat) (key : String) (value : Json) : List Char :=
  (renderString key).toList ++ ':' :: ' ' :: (render (level + 1) value).toList

theorem memberText_infix_render_object {key : String} {value : Json}
    {members : List (String × Json)} (h : (key, value) ∈ members) (level : Nat) :
    memberText level key value <:+: (render level (.object members)).toList := by
  have htext := toList_render_object level (List.ne_nil_of_mem h) []
  rw [List.append_nil] at htext
  rw [htext]
  exact List.infix_cons (List.infix_append_of_infix_left
    (renderString_append_render_infix_renderMembers h _))

end LintRun.Json
