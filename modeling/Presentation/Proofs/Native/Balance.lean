import Presentation.Proofs.Native.Custody

/-!
# The books of a window and its surface

While operations are performed and faults are set in any order, a surface and its
simulated window agree on the image that is out and on the swapchain. Nothing
that was handed out is lost sight of.
-/

set_option autoImplicit false

namespace Presentation

namespace ActiveConfig.Accounts

variable {a : ActiveConfig} {out : List Nat}

/-- An image is held that is out and lies in the pool. -/
theorem acquired_iff (h : a.Accounts out) (index : Nat) :
    a.acquired = some index ↔ index ∈ out ∧ index < a.pool.images.length := by
  unfold ActiveConfig.Accounts at h
  split at h
  · rename_i held hheld
    obtain ⟨rfl, hlt, -⟩ := h
    rw [hheld, Option.some_inj, List.mem_singleton]
    constructor
    · rintro rfl
      exact ⟨rfl, hlt⟩
    · exact fun h => h.1.symm
  · rename_i hfree
    rw [hfree]
    refine ⟨by rintro ⟨⟩, ?_⟩
    rintro ⟨hmem, hlt⟩
    split at h
    · rcases h with ⟨rfl, -⟩ | ⟨stray, rfl, hstray⟩
      · simp at hmem
      · rw [List.mem_singleton] at hmem
        omega
    · obtain ⟨rfl, -⟩ := h
      simp at hmem

/-- A pool that has images is stale if one is out that it does not have. -/
theorem stale_iff (h : a.Accounts out) (hne : a.pool.images ≠ []) :
    a.stale = true ↔ ∃ index ∈ out, a.pool.images.length ≤ index := by
  unfold ActiveConfig.Accounts at h
  split at h
  · obtain ⟨rfl, hlt, hstale⟩ := h
    simp [hstale, hlt]
  · split at h
    · rename_i hstale
      rcases h with ⟨-, hnil⟩ | ⟨stray, rfl, hstray⟩
      · exact absurd hnil hne
      · simp [hstale, hstray]
    · rename_i hstale
      obtain ⟨rfl, -⟩ := h
      simp [hstale]

end ActiveConfig.Accounts

/-- The pool was found not to match the native swapchain. -/
def Surface.isStale (s : Surface) : Bool := (s.active.map (·.stale)).getD false

namespace Native.Simulated

open Surface (Op Episode)

/-- No presentation is told to fail as if the surface were out of date. -/
def Move.Mild : Move → Prop
  | inject change =>
    ∀ faults, faults.present ≠ some .outOfDateSurface →
      (change faults).present ≠ some .outOfDateSurface
  | perform _ => True

namespace Stage

variable {st st' : Stage} {ep : Episode interface} {past : List (Episode interface)}

/-- The window has a swapchain if its surface is configured, and what is out is what the surface
accounts for. -/
def Suits (s : Surface) (n : Simulated) : Prop :=
  match s.active with
  | none => n.outstanding = none ∧ n.desc = none
  | some active =>
    active.pool.images ≠ [] ∧ active.Accounts n.outstanding.toList ∧ n.desc ≠ none

theorem suits_none {s : Surface} {n : Simulated} (hs : s.active = none) :
    Suits s n ↔ n.outstanding = none ∧ n.desc = none := by
  rw [Suits, hs]

theorem suits_some {s : Surface} {n : Simulated} {active : ActiveConfig}
    (hs : s.active = some active) : Suits s n ↔
      active.pool.images ≠ [] ∧ active.Accounts n.outstanding.toList ∧ n.desc ≠ none := by
  rw [Suits, hs]

/-- Images that an episode takes from their swapchain while they are out. -/
def discardedIn (st : Stage) (ep : Episode interface) : Nat :=
  if ep.ends then st.native.outstanding.toList.length else 0

/-- What holds between the moves, when `lost` images were discarded so far. -/
structure Kept (past : List (Episode interface)) (st : Stage) (lost : Nat) : Prop where
  suits : Suits st.surface st.native
  desc : ∀ desc, st.native.desc = some desc → ∃ e, Episode.Last past e desc
  custody : st.native.Custody lost

theorem Kept.inject {lost : Nat} (h : st.Kept past lost) (change : Faults → Faults) :
    (st.inject change).Kept past lost :=
  ⟨h.suits, h.desc, h.custody.stays ⟨rfl, rfl, rfl, rfl, rfl, rfl⟩⟩

theorem Kept.moves {lost : Nat} (h : st.Kept past lost) (hm : st.Moves ep st') :
    st'.Kept (past ++ [ep]) (lost + st.discardedIn ep) := by
  have hlast : (∀ desc, ¬ ep.Configures desc) → st'.native.desc = st.native.desc →
      ∀ desc, st'.native.desc = some desc → ∃ e, Episode.Last (past ++ [ep]) e desc := by
    intro hidle hsame desc hdesc
    obtain ⟨e, he⟩ := h.desc desc (hsame ▸ hdesc)
    exact ⟨e, (Episode.last_append hidle).mpr he⟩
  cases hm with
  | stayed hends hidle hactive hs =>
    refine ⟨?_, hlast hidle hs.desc, ?_⟩
    · rw [Suits, hactive, hs.outstanding, hs.desc]
      exact h.suits
    · rw [discardedIn, hends]
      exact h.custody.stays hs
  | renewed hends hconfigures hactive hout hne hs =>
    refine ⟨?_, ?_, ?_⟩
    · rw [suits_some hactive, hs.outstanding, hs.desc]
      exact ⟨hne, hout, Option.some_ne_none _⟩
    · intro desc hdesc
      cases hs.desc.symm.trans hdesc
      exact ⟨ep, past, [], rfl, hconfigures, by simp⟩
    · rw [discardedIn, hends]
      exact h.custody.startsOver hs
  | ended hends hidle hactive hs =>
    refine ⟨(suits_none hactive).mpr ⟨hs.outstanding, hs.desc⟩, ?_, ?_⟩
    · intro desc hdesc
      cases hs.desc.symm.trans hdesc
    · rw [discardedIn, hends]
      exact h.custody.startsOver hs
  | handedOut hends hidle hactive hactive' hout hpool hs =>
    obtain ⟨hne, -, hdesc⟩ := (suits_some hactive).mp h.suits
    refine ⟨?_, hlast hidle hs.desc, ?_⟩
    · rw [suits_some hactive', hs.outstanding, hs.desc, hpool]
      exact ⟨hne, hout, hdesc⟩
    · rw [discardedIn, hends]
      exact h.custody.handsOut hs
  | takenBack hends hidle hactive hheld hactive' hs =>
    obtain ⟨hne, hout, hdesc⟩ := (suits_some hactive).mp h.suits
    simp only [ActiveConfig.Accounts, hheld] at hout
    refine ⟨?_, hlast hidle hs.desc, ?_⟩
    · rw [suits_some hactive', hs.outstanding, hs.desc]
      refine ⟨hne, ?_, hdesc⟩
      simp [ActiveConfig.Accounts, hout.2.2, hne]
    · rw [discardedIn, hends]
      exact h.custody.takesBack hs

/-- The images that a sequence of moves has discarded while they were out. -/
def discarded : Stage → List Move → Nat
  | _, [] => 0
  | st, .inject change :: moves => (st.inject change).discarded moves
  | st, .perform op :: moves =>
    match st.perform op with
    | some (ep, st') => st.discardedIn ep + st'.discarded moves
    | none => 0

theorem Kept.play {lost : Nat} {moves : List Move} (h : st.Kept past lost)
    (hmild : st.native.Mild) (hmoves : ∀ move ∈ moves, move.Mild) :
    (st.play moves).2.Kept (past ++ (st.play moves).1) (lost + st.discarded moves) := by
  induction moves generalizing st past lost with
  | nil =>
    rw [Stage.play, List.append_nil]
    exact h
  | cons move moves ih =>
    have hrest : ∀ move ∈ moves, move.Mild := fun m hm => hmoves m (List.mem_cons_of_mem _ hm)
    cases move with
    | inject change =>
      have hchange : (Move.inject change).Mild := hmoves _ List.mem_cons_self
      exact ih (h.inject change) (hchange _ hmild) hrest
    | perform op =>
      obtain ⟨ep, st', heq, hperforms⟩ := st.exists_performs op
      have hmild' : st'.native.Mild := (replays_spends hperforms.replays).mild hmild
      have hnext := ih (h.moves (hperforms.moves hmild)) hmild' hrest
      rw [List.append_assoc, Nat.add_assoc] at hnext
      simp only [Stage.play, discarded, heq]
      exact hnext

/-- The image books of a window and those of its surface. -/
structure Balanced (past : List (Episode interface)) (st : Stage) (lost : Nat) : Prop where
  /-- The image that is held is out, and lies in the pool. -/
  held : ∀ index, st.surface.acquired = some index ↔
    st.native.outstanding = some index ∧ index < st.surface.imageCount
  /-- A pool is stale when an image is out that it does not have. -/
  stale : st.surface.isStale = true ↔
    ∃ index, st.native.outstanding = some index ∧ st.surface.imageCount ≤ index
  configured : st.native.desc.isSome = st.surface.isConfigured
  desc : ∀ desc, st.native.desc = some desc → ∃ e, Episode.Last past e desc
  /-- Images are presented in the order in which they were handed out, each once. -/
  order : st.native.presented.Sublist st.native.acquired
  count : st.native.acquired.length =
    st.native.presented.length + st.native.outstanding.toList.length + lost

theorem Kept.balanced {lost : Nat} (h : st.Kept past lost) : st.Balanced past lost := by
  have hsuits := h.suits
  cases hactive : st.surface.active with
  | none =>
    obtain ⟨hout, hdesc⟩ := (suits_none hactive).mp hsuits
    refine ⟨?_, ?_, ?_, h.desc, h.custody.sublist, h.custody.count⟩
    · simp [Surface.acquired, hactive, hout]
    · simp [Surface.isStale, hactive, hout]
    · simp [Surface.isConfigured, hactive, hdesc]
  | some active =>
    obtain ⟨hne, hout, hdesc⟩ := (suits_some hactive).mp hsuits
    refine ⟨?_, ?_, ?_, h.desc, h.custody.sublist, h.custody.count⟩
    · intro index
      have hheld := hout.acquired_iff index
      simp only [Option.mem_toList] at hheld
      simpa [Surface.acquired, Surface.imageCount, hactive] using hheld
    · have hstale := hout.stale_iff hne
      simp only [Option.mem_toList] at hstale
      simpa [Surface.isStale, Surface.imageCount, hactive] using hstale
    · simp [Surface.isConfigured, hactive, Option.isSome_iff_ne_none, hdesc]

/-- The window after its surface and then itself were dropped. -/
def dropped (st : Stage) : Simulated := (st.surface.close.run answer st.native).peer.drop

theorem dropped_eq (st : Stage) : st.dropped = st.native.unconfigure.drop := by
  unfold dropped Surface.close
  split
  · rfl
  · rfl

/-- An image that is out goes with its surface. -/
theorem Kept.dropped {lost : Nat} (h : st.Kept past lost) :
    st.dropped.outstanding = none ∧ st.dropped.desc = none ∧
      st.dropped.Custody (lost + st.native.outstanding.toList.length) := by
  rw [dropped_eq]
  exact ⟨rfl, rfl, h.custody.startsOver ⟨rfl, rfl, rfl, rfl⟩⟩

theorem Kept.attached {device : String} {info : SurfaceInfo} {faults : Faults}
    (h : attach device { ofInfo info with faults } = some st) : st.Kept [] 0 := by
  obtain ⟨hactive, hnative⟩ := attach_eq h
  refine ⟨(suits_none hactive).mpr ?_, ?_, ?_⟩
  · rw [hnative]
    exact ⟨rfl, rfl⟩
  · rw [hnative]
    rintro desc ⟨⟩
  · rw [hnative]
    exact ⟨⟨[], rfl, List.Sublist.refl []⟩, rfl⟩

/-- Whatever operations are performed and whatever faults are set between them, no image gets
lost: each one that was handed out is out, was presented, or went with its swapchain. -/
theorem images_accounted_for {device : String} {info : SurfaceInfo} {faults : Faults}
    (hst : attach device { ofInfo info with faults } = some st)
    (hfaults : faults.present ≠ some .outOfDateSurface) (moves : List Move)
    (hmoves : ∀ move ∈ moves, move.Mild) :
    (st.play moves).1.map (·.op) = moves.filterMap Move.op? ∧
    (st.play moves).2.Balanced (st.play moves).1 (st.discarded moves) ∧
    (st.play moves).2.dropped.outstanding = none ∧ (st.play moves).2.dropped.desc = none ∧
    (st.play moves).2.dropped.Custody
      (st.discarded moves + (st.play moves).2.native.outstanding.toList.length) := by
  have hmild : st.native.Mild := by
    rw [(attach_eq hst).2]
    exact hfaults
  have hkept := (Kept.attached hst).play hmild hmoves
  rw [List.nil_append, Nat.zero_add] at hkept
  exact ⟨play_ops st moves, hkept.balanced, hkept.dropped⟩

/-- An image outside the pool is discarded, one is presented at the second attempt, and one is
given up while it is held. -/
def wasteful : List Move :=
  [.perform (.configure (.ofSize 8 8)), .inject ({ · with strayIndex := some 9 }),
    .perform .acquire, .perform .acquire, .perform (.configure (.ofSize 4 4)), .perform .acquire,
    .inject ({ · with present := some (.backendError "device lost") }), .perform .present,
    .perform .present, .perform .acquire, .perform .unconfigure]

theorem images_accounted_for_when_wasted : ∃ st,
    attach "gpu" { ofInfo defaultInfo with faults := .none } = some st ∧
    (st.play wasteful).2.native.acquired = [9, 0, 1] ∧
    (st.play wasteful).2.native.presented = [0] ∧
    (st.play wasteful).2.Balanced (st.play wasteful).1 2 := by
  have hmoves : ∀ move ∈ wasteful, move.Mild := by
    simp [wasteful, Move.Mild]
  have hnone : Faults.none.present ≠ some .outOfDateSurface := by decide
  have hst : attach "gpu" { ofInfo defaultInfo with faults := .none } =
      some ⟨⟨"gpu", defaultInfo, none, none, 0⟩, ofInfo defaultInfo⟩ := rfl
  exact ⟨_, hst, rfl, rfl, (images_accounted_for hst hnone wasteful hmoves).2.1⟩

end Stage

end Native.Simulated

end Presentation
