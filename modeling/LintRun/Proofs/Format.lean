import LintRun.Format.Document
import LintRun.Proofs.List

/-!
# Values that are read

What a reader gives is made of what its parts give, in every format. So what holds of the numbers
that a format reads holds of the numbers in all records.

## Main definitions

* `LawfulFormat` holds of the formats whose numbers keep to their bounds.

## Main statements

* `Format.le_max_of_canReturn_count`: a line number that was read is within the bound.
* `Format.canReturn_list`, `Format.canReturn_option`, `Format.canReturn_required` and
  `Format.canReturn_orElse`: what the readers of larger values give.
* `Document.canReturn_of_mem_json?` and `Document.canReturn_of_mem_yaml?`: what the entries of a
  document give.
-/

namespace LintRun

open MonadAttach (CanReturn)
open LawfulMonadAttach (canReturn_bind_imp' eq_of_canReturn_pure)

/-- A format in which a reading that fails gives nothing, and numbers keep to their bounds. -/
class LawfulFormat (V : Type) (m : outParam (Type → Type)) [Refusing m] [MonadAttach m]
    [Format V m] : Prop where
  not_canReturn_refuse {α : Type} {a : α} : ¬CanReturn (Refusing.refuse : m α) a
  le_of_canReturn_natural {max n : Nat} {v : V} :
    CanReturn (Format.natural max v : m Nat) n → n ≤ max

/-- Every entry of a list that was read one by one was read from an entry. -/
theorem canReturn_mapM {m : Type → Type} [Monad m] [LawfulMonad m] [MonadAttach m]
    [LawfulMonadAttach m] {α β : Type} {f : α → m β} {l : List α} {l' : List β}
    (h : CanReturn (l.mapM f) l') : List.Forall₂ (fun a b => CanReturn (f a) b) l l' := by
  induction l generalizing l' with
  | nil =>
    rw [List.mapM_nil] at h
    obtain rfl := eq_of_canReturn_pure h
    exact .nil
  | cons a l ih =>
    rw [List.mapM_cons] at h
    obtain ⟨b, hb, h⟩ := canReturn_bind_imp' h
    obtain ⟨rest, hrest, h⟩ := canReturn_bind_imp' h
    obtain rfl := eq_of_canReturn_pure h
    exact .cons hb (ih hrest)

namespace Format

variable {V : Type} {m : Type → Type} [Refusing m] [MonadAttach m] [Format V m] {α : Type}
  {read : V → m α}

theorem le_max_of_canReturn_count [LawfulFormat V m] {v : V} {n : Nat}
    (h : CanReturn (count v : m Nat) n) : n ≤ Count.max :=
  LawfulFormat.le_of_canReturn_natural h

theorem canReturn_required [LawfulFormat V m] {v? : Option V} {a : α}
    (h : CanReturn (required read v?) a) : ∃ v, CanReturn (read v) a := by
  cases v? with
  | none => exact absurd h (LawfulFormat.not_canReturn_refuse V)
  | some v => exact ⟨v, h⟩

variable [LawfulMonad m] [LawfulMonadAttach m]

theorem canReturn_list {v : V} {l : List α} (h : CanReturn (list read v) l) {a : α} (ha : a ∈ l) :
    ∃ item, CanReturn (read item) a := by
  obtain ⟨items, -, h⟩ := canReturn_bind_imp' h
  exact exists_of_mem_forall₂ (canReturn_mapM h).flip ha

theorem canReturn_option {v : V} {a : α} (h : CanReturn (option read v) (some a)) :
    ∃ v, CanReturn (read v) a := by
  obtain ⟨v?, -, h⟩ := canReturn_bind_imp' h
  cases v? with
  | none => cases eq_of_canReturn_pure h
  | some v =>
    obtain ⟨b, hb, h⟩ := canReturn_bind_imp' h
    obtain rfl := Option.some_inj.1 (eq_of_canReturn_pure h)
    exact ⟨v, hb⟩

omit [Format V m] in
theorem canReturn_orElse {default : α} {v? : Option V} {a : α}
    (h : CanReturn (orElse default read v?) a) : a = default ∨ ∃ v, CanReturn (read v) a := by
  cases v? with
  | none => exact .inl (eq_of_canReturn_pure h).symm
  | some v => exact .inr ⟨v, h⟩

theorem canReturn_orElse_list {v? : Option V} {l : List α}
    (h : CanReturn (orElse [] (list read) v?) l) {a : α} (ha : a ∈ l) :
    ∃ item, CanReturn (read item) a := by
  rcases canReturn_orElse h with rfl | ⟨v, hv⟩
  · cases ha
  · exact canReturn_list hv ha

theorem le_max_of_canReturn_orElse_count [LawfulFormat V m] {v? : Option V} {n : Nat}
    (h : CanReturn (orElse 0 count v? : m Nat) n) : n ≤ Count.max := by
  rcases canReturn_orElse h with rfl | ⟨v, hv⟩
  · exact Nat.zero_le _
  · exact le_max_of_canReturn_count hv

end Format

/-! ## The formats -/

instance : LawfulFormat Json Option where
  not_canReturn_refuse h := by cases h
  le_of_canReturn_natural {max n v} h := by
    obtain ⟨i, hi, rfl⟩ := Option.map_eq_some_iff.1 h
    cases v with
    | int k =>
      rw [Json.integer?] at hi
      split at hi
      · cases hi
        omega
      · cases hi
    | _ => cases hi

namespace Yaml

theorem not_canReturn_failure {α : Type} {a : α} : ¬CanReturn (failure : Resolving α) a := by
  rintro ⟨s, s', h⟩
  cases h

instance : LawfulFormat Node Resolving where
  not_canReturn_refuse := not_canReturn_failure
  le_of_canReturn_natural {max n v} h := by
    obtain ⟨text, -, h⟩ := canReturn_bind_imp' h
    obtain ⟨k, -, h⟩ := canReturn_bind_imp' h
    split at h
    · next hle =>
      obtain rfl := eq_of_canReturn_pure h
      exact hle
    · exact absurd h not_canReturn_failure

end Yaml

/-! ## Documents -/

namespace Document

variable {α : Type} {default document : α} {text : String}

/-- A JSON document is blank, or it was read from a value. -/
theorem canReturn_of_json? {read : Json → Option α}
    (h : json? read default text = some document) :
    document = default ∨ ∃ v, CanReturn (read v) document := by
  rw [json?] at h
  split at h
  · exact .inl (Option.some_inj.1 h).symm
  · obtain ⟨v, -, hread⟩ := Option.bind_eq_some_iff.1 h
    exact .inr ⟨v, hread⟩

/-- A YAML document is blank, or it was read from a node. -/
theorem canReturn_of_yaml? {read : Yaml.Node → Yaml.Resolving α}
    (h : yaml? read default text = some document) :
    document = default ∨ ∃ node, CanReturn (read node) document := by
  rw [yaml?] at h
  split at h
  · exact .inl (Option.some_inj.1 h).symm
  · obtain ⟨root, -, hroot⟩ := Option.bind_eq_some_iff.1 h
    obtain ⟨⟨_, s⟩, hread, rfl⟩ := Option.map_eq_some_iff.1 hroot
    exact .inr ⟨root, _, s, hread⟩

variable {l : List α} {a : α}

/-- Every entry of a document was read from a value, as a blank document has none. -/
theorem canReturn_of_mem_json? {read : Json → Option α}
    (h : json? (Format.list read) [] text = some l) (ha : a ∈ l) : ∃ v, CanReturn (read v) a := by
  rcases canReturn_of_json? h with rfl | ⟨v, hv⟩
  · cases ha
  · exact Format.canReturn_list hv ha

/-- Every entry of a document was read from a node, as a blank document has none. -/
theorem canReturn_of_mem_yaml? {read : Yaml.Node → Yaml.Resolving α}
    (h : yaml? (Format.list read) [] text = some l) (ha : a ∈ l) :
    ∃ node, CanReturn (read node) a := by
  rcases canReturn_of_yaml? h with rfl | ⟨node, hnode⟩
  · cases ha
  · exact Format.canReturn_list hnode ha

end Document

end LintRun
