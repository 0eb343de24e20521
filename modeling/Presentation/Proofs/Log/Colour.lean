import Presentation.Log.Line

/-!
# Colour taken off

A reader without a terminal takes the escape sequences out of a log line. What
remains does not depend on the palette, whatever sequences stand in the texts of
the entry: a sequence begins with an escape character and holds no other, so
what the palette puts between two escape characters, or behind a sequence that
has ended, is taken out by itself.
-/

set_option autoImplicit false

namespace Presentation.Log

/-- A character of the parameters of an escape sequence. -/
def isParameter (c : Char) : Bool := c.isDigit || c == ';'

/-- What is left of a text behind the escape sequence that it begins with. -/
def behindSequence? : List Char → Option (List Char)
  | '\x1b' :: '[' :: text =>
    match text.dropWhile isParameter with
    | 'm' :: rest => some rest
    | _ => none
  | _ => none

theorem dropWhile_isParameter {parameters : List Char} (h : ∀ c ∈ parameters, isParameter c)
    (rest : List Char) : (parameters ++ 'm' :: rest).dropWhile isParameter = 'm' :: rest := by
  rw [List.dropWhile_append_of_pos h, List.dropWhile_cons_of_neg (by decide)]

theorem behindSequence?_eq_some_iff {text rest : List Char} :
    behindSequence? text = some rest ↔
      ∃ parameters, (∀ c ∈ parameters, isParameter c) ∧
        text = '\x1b' :: '[' :: parameters ++ 'm' :: rest := by
  constructor
  · intro h
    unfold behindSequence? at h
    split at h
    · rename_i inner
      split at h
      · rename_i behind hbehind
        cases h
        refine ⟨inner.takeWhile isParameter, List.all_eq_true.mp List.all_takeWhile, ?_⟩
        · rw [List.cons_append, List.cons_append, ← hbehind, List.takeWhile_append_dropWhile]
      · cases h
    · cases h
  · rintro ⟨parameters, hparameters, rfl⟩
    simp only [List.cons_append, behindSequence?, dropWhile_isParameter hparameters]

theorem length_of_behindSequence? {text rest : List Char} (h : behindSequence? text = some rest) :
    rest.length < text.length := by
  obtain ⟨parameters, -, rfl⟩ := behindSequence?_eq_some_iff.mp h
  simp only [List.length_append, List.length_cons]
  omega

/-- A text without the escape sequences in it. -/
def withoutSequences (text : List Char) : List Char :=
  match text with
  | [] => []
  | c :: text =>
    match _h : behindSequence? (c :: text) with
    | some rest => withoutSequences rest
    | none => c :: withoutSequences text
termination_by text.length
decreasing_by
  · exact length_of_behindSequence? ‹_›
  · exact Nat.lt_succ_self text.length

/-- A character that can stand in an escape sequence behind its first. -/
def Continues (c : Char) : Prop := isParameter c ∨ c = '[' ∨ c = 'm'

theorem withoutSequences_of_some {text rest : List Char} (h : behindSequence? text = some rest) :
    withoutSequences text = withoutSequences rest := by
  cases text with
  | nil => cases h
  | cons c text =>
    rw [withoutSequences]
    split
    · rename_i rest' h'
      rw [Option.some.inj (h'.symm.trans h)]
    · rename_i hnone
      cases hnone.symm.trans h

theorem withoutSequences_of_none {c : Char} {text : List Char}
    (h : behindSequence? (c :: text) = none) :
    withoutSequences (c :: text) = c :: withoutSequences text := by
  rw [withoutSequences]
  split
  · rename_i hsome
    cases hsome.symm.trans h
  · rfl

theorem withoutSequences_cons {c : Char} (h : c ≠ '\x1b') (text : List Char) :
    withoutSequences (c :: text) = c :: withoutSequences text := by
  apply withoutSequences_of_none
  rw [Option.eq_none_iff_forall_ne_some]
  intro rest hrest
  obtain ⟨parameters, -, htext⟩ := behindSequence?_eq_some_iff.mp hrest
  exact h (List.cons.inj htext).1

theorem behindSequence?_append {text rest : List Char} (h : behindSequence? text = some rest)
    (more : List Char) : behindSequence? (text ++ more) = some (rest ++ more) := by
  obtain ⟨parameters, hparameters, rfl⟩ := behindSequence?_eq_some_iff.mp h
  exact behindSequence?_eq_some_iff.mpr ⟨parameters, hparameters, by simp⟩

/-- A sequence that is broken off stays so if what comes next cannot stand in it. -/
theorem behindSequence?_append_none {c : Char} {text more : List Char}
    (h : behindSequence? (c :: text) = none) (hmore : ∀ d ∈ more.head?, ¬ Continues d) :
    behindSequence? (c :: text ++ more) = none := by
  rw [Option.eq_none_iff_forall_ne_some]
  intro rest hrest
  obtain ⟨parameters, hparameters, htext⟩ := behindSequence?_eq_some_iff.mp hrest
  obtain ⟨rfl, htext⟩ := List.cons.inj htext
  have hbody : text ++ more = ('[' :: parameters ++ ['m']) ++ rest := by simpa using htext
  have hcontinues : ∀ d ∈ '[' :: parameters ++ ['m'], Continues d := by
    intro d hd
    simp only [List.cons_append, List.mem_cons, List.mem_append, List.not_mem_nil, or_false] at hd
    rcases hd with rfl | hd | rfl
    · exact Or.inr (Or.inl rfl)
    · exact Or.inl (hparameters d hd)
    · exact Or.inr (Or.inr rfl)
  -- either the text holds the whole sequence, or what comes next begins with a part of it
  rcases List.append_eq_append_iff.mp hbody with ⟨part, hsequence, hpart⟩ | ⟨part, htext, -⟩
  · cases part with
    | nil =>
      rw [List.append_nil] at hsequence
      have hsome : behindSequence? ('\x1b' :: text) = some [] :=
        behindSequence?_eq_some_iff.mpr ⟨parameters, hparameters, by rw [← hsequence]; rfl⟩
      cases hsome.symm.trans h
    | cons d part =>
      apply hmore d
      · rw [hpart]
        rfl
      · apply hcontinues
        rw [hsequence]
        simp
  · have hsome : behindSequence? ('\x1b' :: text) = some part :=
      behindSequence?_eq_some_iff.mpr ⟨parameters, hparameters, by rw [htext]; simp⟩
    cases hsome.symm.trans h

/-- A text can be cut wherever no sequence goes on. -/
theorem withoutSequences_append (text : List Char) {more : List Char}
    (hmore : ∀ c ∈ more.head?, ¬ Continues c) :
    withoutSequences (text ++ more) = withoutSequences text ++ withoutSequences more := by
  fun_induction withoutSequences text with
  | case1 => rfl
  | case2 c text rest h ih =>
    rw [withoutSequences_of_some (behindSequence?_append h more), ih]
  | case3 c text h ih =>
    have hnone := behindSequence?_append_none h hmore
    rw [List.cons_append] at hnone ⊢
    rw [withoutSequences_of_none hnone, ih, List.cons_append]

theorem not_continues_escape (code : String) (text : List Char) :
    ∀ c ∈ (escape code ++ text).head?, ¬ Continues c := by
  rintro c ⟨⟩
  simp [Continues, isParameter]

theorem withoutSequences_escape {code : String} (h : ∀ c ∈ code.toList, isParameter c)
    (text : List Char) : withoutSequences (escape code ++ text) = withoutSequences text := by
  apply withoutSequences_of_some
  exact behindSequence?_eq_some_iff.mpr ⟨code.toList, h, by simp [escape]⟩

theorem withoutSequences_append_escape {code : String} (h : ∀ c ∈ code.toList, isParameter c)
    (before text : List Char) :
    withoutSequences (before ++ (escape code ++ text)) =
      withoutSequences before ++ withoutSequences text := by
  rw [withoutSequences_append before (not_continues_escape code text),
    withoutSequences_escape h text]

theorem reset_parameters : ∀ c ∈ "0".toList, isParameter c := List.all_eq_true.mp (by decide)

/-- Putting a style on again behind each reset is not seen, whatever stands in front. -/
theorem withoutSequences_restyle {code : String} (h : ∀ c ∈ code.toList, isParameter c)
    (before text : List Char) :
    withoutSequences (before ++ restyle (escape code) text) =
      withoutSequences (before ++ text) := by
  fun_induction restyle (escape code) text generalizing before with
  | case1 text ih =>
    have hstyled : before ++ (reset ++ escape code ++ restyle (escape code) text) =
        before ++ (escape "0" ++ (escape code ++ restyle (escape code) text)) := by
      rw [reset, List.append_assoc]
    have hplain : before ++ '\x1b' :: '[' :: '0' :: 'm' :: text =
        before ++ (escape "0" ++ text) := rfl
    rw [hstyled, hplain, withoutSequences_append_escape reset_parameters,
      withoutSequences_append_escape reset_parameters, withoutSequences_escape h]
    exact congrArg (withoutSequences before ++ ·) (ih [])
  | case2 c text hreset ih =>
    have hnext := ih (before ++ [c])
    rwa [List.append_assoc, List.append_assoc] at hnext
  | case3 => rfl

/-- A painted text goes for the text itself, if what comes next cannot stand in a sequence. -/
theorem withoutSequences_paint (palette : Palette) {code : String}
    (h : ∀ c ∈ code.toList, isParameter c) (text : String) {more : List Char}
    (hmore : ∀ c ∈ more.head?, ¬ Continues c) :
    withoutSequences ((palette.paint code text).toList ++ more) =
      withoutSequences (text.toList ++ more) := by
  cases palette with
  | plain => rfl
  | coloured =>
    have hpainted : (Palette.coloured.paint code text).toList ++ more =
        escape code ++ (restyle (escape code) text.toList ++ (escape "0" ++ more)) := by
      simp [Palette.paint, reset]
    have hstyle := withoutSequences_restyle h [] text.toList
    rw [List.nil_append, List.nil_append] at hstyle
    rw [hpainted, withoutSequences_escape h, withoutSequences_append_escape reset_parameters,
      hstyle, ← withoutSequences_append text.toList hmore]

theorem colour_parameters (s : Severity) : ∀ c ∈ s.colour.toList, isParameter c := by
  cases s with
  | _ => exact List.all_eq_true.mp (by decide)

/-- Behind a bracket a line is read anew. -/
theorem withoutSequences_bracket (before text : List Char) :
    withoutSequences (before ++ ']' :: ' ' :: '[' :: text) =
      withoutSequences before ++ ']' :: ' ' :: '[' :: withoutSequences text := by
  have hbracket : ∀ c ∈ (']' :: ' ' :: '[' :: text).head?, ¬ Continues c := by
    rintro c ⟨⟩
    simp [Continues, isParameter]
  rw [withoutSequences_append before hbracket, withoutSequences_cons (by decide),
    withoutSequences_cons (by decide), withoutSequences_cons (by decide)]

/-- What remains of a line does not depend on the palette. -/
theorem withoutSequences_line (palette : Palette) (stamp : String) (e : Entry) :
    withoutSequences (e.line palette stamp).toList =
      withoutSequences ('[' :: stamp.toList) ++ ']' :: ' ' :: '[' ::
        (withoutSequences e.severity.label.toList ++ ']' :: ' ' :: '[' ::
          withoutSequences (e.source.toList ++ ']' :: ' ' ::
            (e.message ++ (e.location.map Location.text).getD "").toList)) := by
  have hcloses : ∀ text : List Char, ∀ c ∈ (']' :: ' ' :: text).head?, ¬ Continues c := by
    rintro text c ⟨⟩
    simp [Continues, isParameter]
  have hsource : ∀ c ∈ sourceColour.toList, isParameter c := List.all_eq_true.mp (by decide)
  rw [toList_line, withoutSequences_bracket,
    withoutSequences_paint palette (colour_parameters e.severity) _ (hcloses _),
    withoutSequences_bracket, withoutSequences_paint palette hsource _ (hcloses _)]

/-- What a reader without a terminal makes of a log line. -/
def uncoloured (line : String) : String := String.ofList (withoutSequences line.toList)

/-- A line says the same in colour and without, once the escape sequences are taken out. -/
theorem uncoloured_lineAt (e : Entry) (time : Calendar.Timestamp) :
    uncoloured (e.lineAt .coloured time) = uncoloured (e.lineAt .plain time) := by
  rw [uncoloured, uncoloured, Entry.lineAt, Entry.lineAt, withoutSequences_line,
    withoutSequences_line]

end Presentation.Log
