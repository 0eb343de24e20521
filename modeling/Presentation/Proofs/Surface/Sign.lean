import Mathlib.Data.List.Find
import Presentation.Surface.Notice

/-!
# Signs in the log

A reader of the log tells the entries of a surface apart by how their texts
begin. Five beginnings are signs of what became of the surface. Whatever errors,
names and numbers stand in a text, it has the sign of the notice that it is the
text of, and no text of another notice has one.
-/

set_option autoImplicit false

namespace Presentation.Surface

inductive Sign where
  | configured
  | unconfigured
  | acquired
  | presented
  | outOfDateOnPresent
  deriving DecidableEq

namespace Sign

def all : List Sign := [configured, unconfigured, acquired, presented, outOfDateOnPresent]

/-- How the texts begin that are a sign. -/
def heading : Sign → String
  | configured => "Configured "
  | unconfigured => "Surface unconfigured"
  | acquired => "Acquired image "
  | presented => "Presented image "
  | outOfDateOnPresent => "Surface out of date on present"

/-- The sign that a text is. -/
def of? (text : String) : Option Sign :=
  all.find? fun sign => sign.heading.toList.isPrefixOf text.toList

/-- Whether the surface is configured after a sign. -/
def configures? : Sign → Option Bool
  | configured => some true
  | unconfigured => some false
  | _ => none

/-- Whether an image is held after a sign. -/
def holds : Sign → Bool
  | acquired => true
  | _ => false

end Sign

/-- Whether two texts differ before one of them ends. -/
def parts : List Char → List Char → Bool
  | c :: first, d :: second => if c = d then parts first second else true
  | _, _ => false

theorem parts_append {first second : List Char} (h : parts first second) (rest : List Char) :
    parts first (second ++ rest) := by
  fun_induction parts first second with
  | case1 c first second ih =>
    rw [List.cons_append, parts, if_pos rfl]
    exact ih h
  | case2 c first d second hne =>
    rw [List.cons_append, parts, if_neg hne]
  | case3 => cases h

theorem not_prefix_of_parts {first second : List Char} (h : parts first second) :
    ¬ first <+: second := by
  fun_induction parts first second with
  | case1 c first second ih =>
    rw [List.cons_prefix_cons]
    exact fun hbegins => ih h hbegins.2
  | case2 c first d second hne =>
    rw [List.cons_prefix_cons]
    exact fun hbegins => hne hbegins.1
  | case3 => cases h

/-- A text is some sign, or none, and stays so whatever it goes on with. -/
structure Reads (text : String) (sign? : Option Sign) : Prop where
  sign : Sign.of? text = sign?
  settled : ∀ sign ∈ Sign.all,
    sign.heading.toList.isPrefixOf text.toList ∨ parts sign.heading.toList text.toList

instance (text : String) (sign? : Option Sign) : Decidable (Reads text sign?) :=
  decidable_of_iff (Sign.of? text = sign? ∧ ∀ sign ∈ Sign.all,
    sign.heading.toList.isPrefixOf text.toList ∨ parts sign.heading.toList text.toList)
    ⟨fun h => ⟨h.1, h.2⟩, fun h => ⟨h.sign, h.settled⟩⟩

theorem Reads.append {text : String} {sign? : Option Sign} (h : Reads text sign?)
    (rest : String) : Reads (text ++ rest) sign? where
  sign := by
    rw [← h.sign, Sign.of?, Sign.of?]
    apply List.find?_congr
    intro sign hsign
    rw [String.toList_append, Bool.eq_iff_iff, List.isPrefixOf_iff_prefix,
      List.isPrefixOf_iff_prefix]
    rcases h.settled sign hsign with hbegins | hparts
    · have hheading := List.isPrefixOf_iff_prefix.mp hbegins
      exact ⟨fun _ => hheading, fun _ => hheading.trans (List.prefix_append _ _)⟩
    · constructor
      · intro hbegins
        exact absurd hbegins (not_prefix_of_parts (parts_append hparts _))
      · intro hbegins
        exact absurd hbegins (not_prefix_of_parts hparts)
  settled := by
    intro sign hsign
    rw [String.toList_append]
    rcases h.settled sign hsign with hbegins | hparts
    · rw [List.isPrefixOf_iff_prefix] at hbegins ⊢
      exact Or.inl (hbegins.trans (List.prefix_append _ _))
    · exact Or.inr (parts_append hparts _)

/-- The sign that a notice is. -/
def Notice.sign? : Notice → Option Sign
  | configured .. => some .configured
  | unconfigured => some .unconfigured
  | acquired .. => some .acquired
  | presented _ => some .presented
  | presentOutOfDate => some .outOfDateOnPresent
  | _ => none

/-- The text of a notice is read as the sign that the notice is. -/
theorem Notice.reads_text (n : Notice) : Reads n.text n.sign? := by
  unfold text sign?
  cases n with
  | _ =>
    dsimp only
    repeat with_reducible apply Reads.append
    decide +kernel

end Presentation.Surface
