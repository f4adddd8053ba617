import Mathlib.Data.List.Basic

namespace ChattingProgram.Data

/-! # Incremental framing

A framer recognises the frame at the front of its input as soon as the input is
long enough, and more input does not change its mind.  Splitting a stream piece
by piece, keeping the unconsumed tail, then gives the frames of the whole
stream: `Splits.append` glues two pieces, `Splits.cut` takes them apart.
-/

structure Framer (α : Type) where
  /-- The size of the first frame, once it is complete. -/
  frameSize : List α → Option Nat
  fits : ∀ {input size}, frameSize input = some size → size ≤ input.length
  stable : ∀ {input size} (more : List α),
    frameSize input = some size → frameSize (input ++ more) = some size

namespace Framer

variable {α : Type} {framer : Framer α}

/-- The left-to-right split with a bound on the number of frames. -/
def splitFuel (framer : Framer α) : Nat → List α → List (List α) × List α
  | 0, input => ([], input)
  | fuel + 1, input =>
      match framer.frameSize input with
      | none => ([], input)
      | some size =>
          let later := framer.splitFuel fuel (input.drop size)
          (input.take size :: later.1, later.2)

/-- The complete frames of the input, in order, and the tail left over. -/
def split (framer : Framer α) (input : List α) : List (List α) × List α :=
  framer.splitFuel input.length input

/-- No frame met at a boundary is empty, so the split always advances. -/
inductive Advances (framer : Framer α) : List α → Prop where
  | stop : framer.frameSize input = none → Advances framer input
  | frame : framer.frameSize input = some size → 0 < size →
      Advances framer (input.drop size) → Advances framer input

inductive Splits (framer : Framer α) : List α → List (List α) → List α → Prop where
  | stop : framer.frameSize input = none → Splits framer input [] input
  | frame : framer.frameSize input = some size → 0 < size →
      Splits framer (input.drop size) frames rest →
      Splits framer input (input.take size :: frames) rest

theorem splits_splitFuel (advances : framer.Advances input) (enough : input.length ≤ fuel) :
    framer.Splits input (framer.splitFuel fuel input).1 (framer.splitFuel fuel input).2 := by
  induction advances generalizing fuel with
  | stop absent =>
      cases fuel with
      | zero => exact .stop absent
      | succ fuel =>
          simp only [splitFuel, absent]
          exact .stop absent
  | @frame input size found positive _ ih =>
      have bound := framer.fits found
      cases fuel with
      | zero => omega
      | succ fuel =>
          simp only [splitFuel, found]
          exact .frame found positive (ih (by rw [List.length_drop]; omega))

theorem splits_split (advances : framer.Advances input) :
    framer.Splits input (framer.split input).1 (framer.split input).2 :=
  splits_splitFuel advances (Nat.le_refl _)

theorem Splits.rest_incomplete (splits : framer.Splits input frames rest) :
    framer.frameSize rest = none := by
  induction splits with
  | stop absent => exact absent
  | frame _ _ _ ih => exact ih

theorem Splits.unique (left : framer.Splits input frames rest)
    (right : framer.Splits input otherFrames otherRest) :
    frames = otherFrames ∧ rest = otherRest := by
  induction left generalizing otherFrames otherRest with
  | stop absent =>
      cases right with
      | stop _ => exact ⟨rfl, rfl⟩
      | frame found => simp [absent] at found
  | frame found _ _ ih =>
      cases right with
      | stop absent => simp [absent] at found
      | frame otherFound _ later =>
          have same := Option.some.inj (found.symm.trans otherFound)
          subst same
          obtain ⟨framesEqual, restEqual⟩ := ih later
          exact ⟨by rw [framesEqual], restEqual⟩

/-- A split of a first piece continues with the tail it left. -/
theorem Splits.append (first : framer.Splits input frames rest)
    (second : framer.Splits (rest ++ more) later final) :
    framer.Splits (input ++ more) (frames ++ later) final := by
  induction first with
  | stop _ => exact second
  | @frame input size frames rest found positive _ ih =>
      have bound := framer.fits found
      have whole := Splits.frame (framer.stable more found) positive
        (by rw [List.drop_append_of_le_length bound]; exact ih second)
      rwa [List.take_append_of_le_length bound] at whole

/-- A concatenation of complete frames splits into them. -/
theorem splits_flatten (exhausted : framer.frameSize [] = none)
    (complete : ∀ frame ∈ frames, framer.frameSize frame = some frame.length ∧ 0 < frame.length) :
    framer.Splits frames.flatten frames [] := by
  induction frames with
  | nil => exact .stop exhausted
  | cons frame rest ih =>
      obtain ⟨found, positive⟩ := complete frame (by simp)
      have tail := ih (fun later member => complete later (by simp [member]))
      have whole := Splits.frame (framer.stable rest.flatten found) positive
        (by rw [List.drop_left]; exact tail)
      rwa [List.take_left] at whole

/-- A split of the whole stream restricts to every first piece of it. -/
theorem Splits.cut (whole : framer.Splits (input ++ more) frames final) :
    ∃ early rest later, framer.Splits input early rest ∧
      framer.Splits (rest ++ more) later final ∧ frames = early ++ later := by
  generalize stream : input ++ more = joined at whole
  induction whole generalizing input with
  | stop absent =>
      subst stream
      refine ⟨[], input, [], .stop ?_, .stop absent, rfl⟩
      cases found : framer.frameSize input with
      | none => rfl
      | some size =>
          have extended := framer.stable more found
          rw [absent] at extended
          contradiction
  | @frame joined size frames final found positive tail ih =>
      subst stream
      cases early : framer.frameSize input with
      | none => exact ⟨[], input, _, .stop early, .frame found positive tail, rfl⟩
      | some earlySize =>
          have bound := framer.fits early
          have same := Option.some.inj (found.symm.trans (framer.stable more early))
          subst same
          obtain ⟨frames, rest, later, splits, remaining, joinedFrames⟩ :=
            ih (List.drop_append_of_le_length bound).symm
          refine ⟨input.take size :: frames, rest, later,
            .frame early positive splits, remaining, ?_⟩
          rw [List.take_append_of_le_length bound, joinedFrames]
          rfl

/-- A boundary that the walk over the input reaches and at which a frame is complete;
`found` is the input from there on.  An empty frame does not move the walk. -/
inductive Meets (framer : Framer α) : List α → List α → Prop where
  | here : framer.frameSize input = some size → Meets framer input input
  | later : framer.frameSize input = some size → Meets framer (input.drop size) found →
    Meets framer input found

theorem Meets.complete (meets : framer.Meets input found) :
    ∃ size, framer.frameSize found = some size := by
  induction meets with
  | here complete => exact ⟨_, complete⟩
  | later _ _ ih => exact ih

theorem Meets.append (more : List α) (meets : framer.Meets input found) :
    framer.Meets (input ++ more) (found ++ more) := by
  induction meets with
  | here complete => exact .here (framer.stable more complete)
  | later complete _ ih =>
      refine .later (framer.stable more complete) ?_
      rw [List.drop_append_of_le_length (framer.fits complete)]
      exact ih

theorem Splits.meets (splits : framer.Splits input frames rest)
    (meets : framer.Meets (rest ++ more) found) : framer.Meets (input ++ more) found := by
  induction splits with
  | stop _ => exact meets
  | frame complete _ _ ih =>
      refine .later (framer.stable more complete) ?_
      rw [List.drop_append_of_le_length (framer.fits complete)]
      exact ih meets

theorem Splits.not_empty (splits : framer.Splits input frames rest)
    (meets : framer.Meets input found) : framer.frameSize found ≠ some 0 := by
  induction splits with
  | stop absent =>
      cases meets with
      | here complete => simp [absent] at complete
      | later complete _ => simp [absent] at complete
  | @frame input size frames rest complete positive _ ih =>
      cases meets with
      | here _ =>
          rw [complete, ne_eq, Option.some.injEq]
          omega
      | later again behind =>
          cases complete.symm.trans again
          exact ih behind

/-- A split comes to its end exactly when the walk meets no empty frame. -/
theorem splits_iff :
    (∃ frames rest, framer.Splits input frames rest) ↔
      ∀ found, framer.Meets input found → framer.frameSize found ≠ some 0 := by
  constructor
  · rintro ⟨frames, rest, splits⟩ found meets
    exact splits.not_empty meets
  · intro nonempty
    induction size : input.length using Nat.strongRecOn generalizing input with
    | ind length ih =>
        cases complete : framer.frameSize input with
        | none => exact ⟨[], input, .stop complete⟩
        | some first =>
            have positive : 0 < first := by
              refine Nat.pos_of_ne_zero fun empty => nonempty input (.here complete) ?_
              rw [complete, empty]
            have bound := framer.fits complete
            obtain ⟨frames, rest, splits⟩ :=
              ih (input.drop first).length (by rw [List.length_drop]; omega)
              (fun found behind => nonempty found (.later complete behind)) rfl
            exact ⟨_, rest, .frame complete positive splits⟩

/-- A boundary lies in the first piece, or behind the split of it. -/
theorem Meets.cut (meets : framer.Meets (input ++ more) found) :
    (∃ early, framer.Meets input early ∧ found = early ++ more) ∨
      ∃ frames rest, framer.Splits input frames rest ∧ framer.Meets (rest ++ more) found := by
  generalize stream : input ++ more = joined at meets
  induction meets generalizing input with
  | here complete =>
      subst stream
      cases early : framer.frameSize input with
      | none => exact .inr ⟨[], input, .stop early, .here complete⟩
      | some size => exact .inl ⟨input, .here early, rfl⟩
  | @later joined size found complete meets ih =>
      subst stream
      cases early : framer.frameSize input with
      | none => exact .inr ⟨[], input, .stop early, .later complete meets⟩
      | some earlySize =>
          have same := Option.some.inj (complete.symm.trans (framer.stable more early))
          subst same
          rcases ih (List.drop_append_of_le_length (framer.fits early)).symm with
            ⟨inside, before, rfl⟩ | ⟨frames, rest, splits, behind⟩
          · exact .inl ⟨inside, .later early before, rfl⟩
          · refine .inr ?_
            rcases Nat.eq_zero_or_pos size with empty | positive
            · subst empty
              exact ⟨frames, rest, splits, behind⟩
            · exact ⟨_, rest, .frame early positive splits, behind⟩

end Framer

end ChattingProgram.Data
