import Mathlib.Data.List.Lex
import QualityScale.Proofs.Path.Spelling

/-!
# The order of paths

Paths are compared part by part.  At the first parts that differ, the top directory comes before a
`.`, a `.` before a `..`, a `..` before a name, and names are compared as texts.  So in one
directory the paths come in the order of the names there (`child_before_child_iff`).
-/

namespace QualityScale.Path

def Part.rank : Part → Nat
  | root => 0
  | here => 1
  | up => 2
  | name _ => 3

/-- **One part comes before another.** -/
inductive Part.Before : Part → Part → Prop
  | rank {p q : Part} (h : p.rank < q.rank) : Before p q
  | name {s t : String} (h : s < t) : Before (.name s) (.name t)

theorem Part.name_before_name_iff {s t : String} : Before (.name s) (.name t) ↔ s < t := by
  constructor
  · intro h
    cases h with
    | rank h => exact absurd h (Nat.lt_irrefl 3)
    | name h => exact h
  · exact .name

theorem Part.not_before_self (p : Part) : ¬ Before p p := by
  intro h
  cases h with
  | rank h => exact Nat.lt_irrefl _ h
  | name h => exact String.lt_irrefl _ h

/-- **One path comes before another**: it has a part that comes before the other's at the first
place where they differ, or it ends there. -/
def Before (p q : Path) : Prop :=
  List.Lex Part.Before p.parts q.parts

theorem parts_child {s : String} (hs : IsName s) (p : Path) :
    (p.child s).parts = p.parts ++ [.name s] := by
  have habsolute : (p.child s).isAbsolute = p.isAbsolute := isAbsolute_join hs.isAbsolute_eq
  have hhere : (p.child s).startsHere = p.startsHere :=
    startsHere_join hs.isAbsolute_eq hs.startsHere_eq
  have hname : Part.ofName s = .name s := if_neg hs.notUp
  rw [parts_eq, parts_eq, lead, lead, habsolute, hhere, names_child hs, List.map_append,
    List.map_singleton, hname, List.append_assoc]

/-- **The paths in a directory come in the order of the names there.** -/
theorem child_before_child_iff {s t : String} (hs : IsName s) (ht : IsName t) (p : Path) :
    (p.child s).Before (p.child t) ↔ s < t := by
  have : Std.Irrefl Part.Before := ⟨Part.not_before_self⟩
  rw [Before, parts_child hs, parts_child ht]
  induction p.parts with
  | nil => exact (List.lex_singleton_iff _ _).trans Part.name_before_name_iff
  | cons part parts ih => exact List.lex_cons_iff.trans ih

end QualityScale.Path
