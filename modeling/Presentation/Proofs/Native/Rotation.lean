import Presentation.Proofs.Native.Custody

/-!
# The rotation of images

A simulated window hands its images out in turn. A turn is over when its image
was handed out and not before, whatever fails meanwhile, and a configuration
that succeeds starts again with the first image.
-/

set_option autoImplicit false

namespace Presentation

open Surface (Op)

/-- The index of the image that an episode of acquiring has brought. -/
def Surface.Episode.brought {I : Interface} (e : Episode I) : Option Nat :=
  match e.reply with
  | .image (.ok image) => some image.index
  | _ => none

namespace Native.Simulated

open Surface (Episode)

/-- The number of images for a request: what is asked for, but two at least and four at most. -/
def rounds (desc : SwapchainDesc) : Nat := max 2 (min desc.imageCount.toNat 4)

theorem length_imagesOf (desc : SwapchainDesc) : (imagesOf desc).length = rounds desc := by
  rw [imagesOf, List.length_map, List.length_range]
  rfl

theorem rounds_pos (desc : SwapchainDesc) : 0 < rounds desc :=
  Nat.lt_of_lt_of_le (by decide) (Nat.le_max_left 2 _)

variable {n : Simulated} {desc : SwapchainDesc}

/-- A configuration that succeeds starts with the first image. -/
theorem configure_next (h : (n.configure desc).1 = .ok ()) : (n.configure desc).2.next = 0 := by
  revert h
  simp only [configure]
  split
  · rintro ⟨⟩
  · split
    · rintro ⟨⟩
    · exact fun _ => rfl

/-- It makes no difference to the turns whether and when an image is presented. -/
theorem present_aside (n : Simulated) (index : Nat) :
    (n.present index).2.images = n.images ∧ (n.present index).2.next = n.next := by
  simp only [present]
  split
  · exact ⟨rfl, rfl⟩
  · split
    · exact ⟨rfl, rfl⟩
    · exact ⟨rfl, rfl⟩

/-- No stray index is injected. -/
def Move.Straight : Move → Prop
  | inject change => ∀ faults, faults.strayIndex = none → (change faults).strayIndex = none
  | perform _ => True

namespace Stage

variable {st st' : Stage} {ep : Episode interface} {op : Op} {k : Nat}

def Straight (st : Stage) : Prop := st.native.faults.strayIndex = none

theorem Performs.straight (h : st.Performs op ep st') (hst : st.Straight) : st'.Straight :=
  (replays_spends h.replays).strayIndex.elim (fun hsame => hsame.trans hst) id

/-- While the surface is configured, it has the images for a request, and `k` were acquired. -/
def Turned (desc : SwapchainDesc) (k : Nat) (st : Stage) : Prop :=
  ∀ active, st.surface.active = some active → active.pool.images = imagesOf desc ∧
    st.native.images = imagesOf desc ∧ st.native.next = k % rounds desc

theorem Turned.imageCount (h : st.Turned desc k) (hconfigured : st.surface.isConfigured = true) :
    st.surface.imageCount = rounds desc := by
  obtain ⟨active, hactive⟩ := Option.isSome_iff_exists.mp hconfigured
  rw [Surface.imageCount, hactive, ← length_imagesOf desc, ← (h active hactive).1]
  rfl

/-- What does not concern the images leaves the turn where it is. -/
theorem Turned.stays (h : st.Turned desc k) (hs : st.surface.Retains st'.surface)
    (himages : st'.native.images = st.native.images) (hnext : st'.native.next = st.native.next) :
    st'.Turned desc k := by
  intro active' hactive'
  obtain ⟨active, hactive, hpool⟩ := hs.pool active' hactive'
  rw [hpool, himages, hnext]
  exact h active hactive

/-- The image that is handed out is the one whose turn it is, and the turn passes to the next. -/
theorem Turned.handsOut {active : ActiveConfig} {index : Nat} (h : st.Turned desc k)
    (hst : st.Straight) (hactive : st.surface.active = some active)
    (hs : st.surface.Retains st'.surface) (hout : st.native.HandsOut index st'.native) :
    index = k % rounds desc ∧ st'.Turned desc (k + 1) := by
  obtain ⟨hpool, himages, hnext⟩ := h active hactive
  obtain ⟨hindex, hnext'⟩ := hout.turn hst
  refine ⟨hindex.trans hnext, ?_⟩
  intro active' hactive'
  obtain ⟨held, hheld, hsame⟩ := hs.pool active' hactive'
  cases hactive.symm.trans hheld
  refine ⟨hsame ▸ hpool, hout.images.trans himages, ?_⟩
  rw [hnext', hnext, himages, length_imagesOf, Nat.mod_add_mod]

/-- A configuration that succeeds starts a new round. -/
theorem Performs.turned_configures (h : st.Performs op ep st') (hconfigures : ep.Configures desc) :
    st'.Turned desc 0 := by
  obtain ⟨hreply, config, hrequested, hdesc⟩ := hconfigures
  rw [h.before, h.op_eq] at hrequested
  rw [h.before] at hdesc
  have hreplays := h.replays
  rcases h.acts.brings_or_retains with
    ⟨_, _, images, info, hrequested', hdesc', hcalls, -, hafter⟩ | ⟨hnone, -⟩
  · cases hrequested.symm.trans hrequested'
    cases hdesc.symm.trans hdesc'
    rw [hcalls] at hreplays
    obtain ⟨hok, himages, -, hnative⟩ := hreplays
    have hnew : st'.native = (st.native.configure desc).2 := hnative
    intro active hactive
    rw [hafter, Surface.informed_active] at hactive
    cases hactive
    rw [hnew, configure_next hok.symm]
    exact ⟨himages.trans (configure_images hok.symm), configure_images hok.symm, rfl⟩
  · cases (hnone hreply).symm.trans hrequested

/-- What an episode other than a configuration does to the images of the window. -/
inductive Rotates (st : Stage) (ep : Episode interface) (st' : Stage) : Prop
  | rested : ep.brought = none → st'.native.images = st.native.images →
      st'.native.next = st.native.next → st.Rotates ep st'
  | gone : ep.brought = none → st'.surface.active = none → st.Rotates ep st'
  | passed {active : ActiveConfig} {index : Nat} : st.surface.active = some active →
      st.native.HandsOut index st'.native →
      (ep.brought = some index ∨ ep.brought = none ∧ active.pool.images[index]? = none) →
      st.Rotates ep st'

theorem Rotates.of_stays (hnone : ep.brought = none) (hs : st.native.Stays st'.native) :
    st.Rotates ep st' := .rested hnone hs.images hs.next

theorem Performs.rotates (h : st.Performs op ep st') (hidle : ∀ desc, ¬ ep.Configures desc) :
    st.Rotates ep st' := by
  obtain ⟨rfl, hbefore, -, hacts, hreplays⟩ := h
  generalize Watch.calls ep.events = calls at hacts hreplays
  generalize hop : ep.op = op at hacts
  generalize hreply : ep.reply = reply at hacts
  generalize hs' : st'.surface = s' at hacts
  have hnone : (∀ image, reply ≠ .image (.ok image)) → ep.brought = none := by
    intro hother
    unfold Episode.brought
    split
    · rename_i image himage
      exact absurd (hreply.symm.trans himage) (hother image)
    · rfl
  -- what became of the surface says which calls the window was given
  cases hacts with
  | configured images info hrequested hdesc =>
    exact absurd ⟨hreply, _, by rwa [hbefore, hop], by rwa [hbefore]⟩ (hidle _)
  | refused e hrequested hdesc =>
    obtain ⟨herror, hnative⟩ := hreplays
    exact .of_stays (hnone nofun) (hnative ▸ configure_refuses herror.symm)
  | minimised info hminimises hconfigured =>
    exact .gone (hnone nofun) (by rw [hs', Surface.informed_active])
  | acquired hactive hfree hstale htexture =>
    obtain ⟨hok, hnative⟩ := hreplays
    refine .passed hactive (hnative ▸ acquire_hands_out hok.symm) (Or.inl ?_)
    rw [Episode.brought, hreply]
  | strayed hactive hfree hstray =>
    obtain ⟨hok, hnative⟩ := hreplays
    exact .passed hactive (hnative ▸ acquire_hands_out hok.symm) (Or.inr ⟨hnone nofun, hstray⟩)
  | missed e =>
    obtain ⟨herror, hnative⟩ := hreplays
    exact .of_stays (hnone nofun) (hnative ▸ acquire_refuses herror.symm)
  | @presented index answer hindex hanswer =>
    obtain ⟨-, hnative⟩ := hreplays
    obtain ⟨himages, hnext⟩ := present_aside st.native index
    exact .rested (hnone nofun) (hnative ▸ himages) (hnative ▸ hnext)
  | @kept index e hindex hne =>
    obtain ⟨-, hnative⟩ := hreplays
    obtain ⟨himages, hnext⟩ := present_aside st.native index
    exact .rested (hnone nofun) (hnative ▸ himages) (hnative ▸ hnext)
  | refreshed info =>
    obtain ⟨-, hnative⟩ := hreplays
    exact .of_stays (hnone nofun) (hnative ▸ .refl _)
  | _ => exact .of_stays (hnone nofun) (hreplays ▸ .refl _)

theorem Performs.turned (h : st.Performs op ep st') (hst : st.Straight) (hturn : st.Turned desc k)
    (hidle : ∀ desc, ¬ ep.Configures desc) :
    (∀ index ∈ ep.brought, index = k % rounds desc) ∧
      st'.Turned desc (k + ep.brought.toList.length) := by
  have hretains : st.surface.Retains st'.surface := by
    rcases h.acts.brings_or_retains with
      ⟨config, desc, _, _, hrequested, hdesc, -, hreply, -⟩ | ⟨-, hretains⟩
    · refine absurd ⟨hreply, config, ?_, ?_⟩ (hidle desc)
      · rwa [h.before, h.op_eq]
      · rwa [h.before]
    · exact hretains
  cases h.rotates hidle with
  | rested hnone himages hnext =>
    rw [hnone]
    exact ⟨nofun, hturn.stays hretains himages hnext⟩
  | gone hnone hactive =>
    rw [hnone]
    refine ⟨nofun, ?_⟩
    intro active hsome
    cases hactive.symm.trans hsome
  | @passed active index hactive hout hbrought =>
    obtain ⟨rfl, hnext⟩ := hturn.handsOut hst hactive hretains hout
    rcases hbrought with hsome | ⟨-, hstray⟩
    · rw [hsome]
      refine ⟨?_, hnext⟩
      rintro _ ⟨⟩
      rfl
    · -- the pool has an image for every turn
      rw [(hturn active hactive).1, List.getElem?_eq_none_iff, length_imagesOf] at hstray
      exact absurd (Nat.mod_lt k (rounds_pos desc)) (Nat.not_lt_of_le hstray)

/-- A place among the episodes is one between the moves. -/
theorem exists_performs_at {moves : List Move} {before later : List (Episode interface)}
    (hst : st.Straight) (hmoves : ∀ move ∈ moves, move.Straight)
    (h : (st.play moves).1 = before ++ ep :: later) :
    ∃ (mid : Stage) (op : Op) (next : Stage) (rest : List Move), mid.Straight ∧
      mid.Performs op ep next ∧ (next.play rest).1 = later ∧ ∀ move ∈ rest, move.Straight := by
  induction moves generalizing st before with
  | nil => simp [play] at h
  | cons move moves ih =>
    have hrest : ∀ move ∈ moves, move.Straight := fun m hm => hmoves m (List.mem_cons_of_mem _ hm)
    cases move with
    | inject change =>
      have hchange : (Move.inject change).Straight := hmoves _ List.mem_cons_self
      have hst' : (st.inject change).Straight := hchange _ hst
      exact ih hst' hrest h
    | perform op =>
      obtain ⟨e, st', heq, hperforms⟩ := st.exists_performs op
      simp only [play, heq] at h
      cases before with
      | nil =>
        obtain ⟨rfl, rfl⟩ := List.cons.inj h
        exact ⟨st, op, st', moves, hst, hperforms, rfl, hrest⟩
      | cons first before =>
        exact ih (hperforms.straight hst) hrest (List.cons.inj h).2

/-- Up to the next configuration the images go round. -/
theorem Turned.play {moves : List Move} {since rest : List (Episode interface)}
    (hturn : st.Turned desc k) (hst : st.Straight) (hmoves : ∀ move ∈ moves, move.Straight)
    (h : (st.play moves).1 = since ++ rest) (hidle : ∀ e ∈ since, ∀ desc, ¬ e.Configures desc) :
    (∀ j index, (since.filterMap Episode.brought)[j]? = some index →
      index = (k + j) % rounds desc) ∧
    ∀ e ∈ since, e.after.isConfigured = true → e.after.imageCount = rounds desc := by
  induction moves generalizing st since k with
  | nil =>
    obtain ⟨rfl, -⟩ := List.append_eq_nil_iff.mp h.symm
    exact ⟨by simp, by simp⟩
  | cons move moves ih =>
    have hrest : ∀ move ∈ moves, move.Straight := fun m hm => hmoves m (List.mem_cons_of_mem _ hm)
    cases move with
    | inject change =>
      have hchange : (Move.inject change).Straight := hmoves _ List.mem_cons_self
      have hst' : (st.inject change).Straight := hchange _ hst
      have hturn' : (st.inject change).Turned desc k := hturn
      exact ih hturn' hst' hrest h hidle
    | perform op =>
      obtain ⟨e, st', heq, hperforms⟩ := st.exists_performs op
      simp only [Stage.play, heq] at h
      cases since with
      | nil => exact ⟨by simp, by simp⟩
      | cons first since =>
        obtain ⟨rfl, htail⟩ := List.cons.inj h
        obtain ⟨hbrought, hturn'⟩ :=
          hperforms.turned hst hturn (hidle e List.mem_cons_self)
        obtain ⟨hround, hcount⟩ := ih hturn' (hperforms.straight hst) hrest htail
          fun e he => hidle e (List.mem_cons_of_mem _ he)
        constructor
        · intro j index hj
          cases hsome : e.brought with
          | none =>
            rw [List.filterMap_cons_none hsome] at hj
            rw [hsome] at hround
            exact hround j index hj
          | some head =>
            -- this image is the `k`-th, and shifts those after it by one
            rw [List.filterMap_cons_some hsome] at hj
            rw [hsome] at hround hbrought
            cases j with
            | zero =>
              cases hj
              exact hbrought _ rfl
            | succ j =>
              have hnext := hround j index hj
              rwa [Nat.add_assoc, Nat.add_comm _ j] at hnext
        · intro e' he' hconfigured
          rcases List.mem_cons.mp he' with rfl | he'
          · rw [hperforms.after] at hconfigured ⊢
            exact hturn'.imageCount hconfigured
          · exact hcount e' he' hconfigured

/-- Since a configuration that succeeded, the `k`-th image that is acquired has the index `k`,
modulo the number of images, which is what was asked for within two and four. What fails in between
makes no difference. -/
theorem images_go_round {device : String} {info : SurfaceInfo} {faults : Faults}
    (hst : attach device { ofInfo info with faults } = some st) (hfaults : faults.strayIndex = none)
    (moves : List Move) (hmoves : ∀ move ∈ moves, move.Straight) :
    (st.play moves).1.map (·.op) = moves.filterMap Move.op? ∧
    ∀ before c since rest desc, (st.play moves).1 = before ++ c :: (since ++ rest) →
      c.Configures desc → (∀ e ∈ since, ∀ desc, ¬ e.Configures desc) →
      (∀ k index, (since.filterMap Episode.brought)[k]? = some index →
        index = k % max 2 (min desc.imageCount.toNat 4)) ∧
      ∀ e ∈ c :: since, e.after.isConfigured = true →
        e.after.imageCount = max 2 (min desc.imageCount.toNat 4) := by
  refine ⟨play_ops st moves, ?_⟩
  intro before c since rest desc hplay hconfigures hidle
  have hstraight : st.Straight := by
    rw [Straight, (attach_eq hst).2]
    exact hfaults
  obtain ⟨mid, op, next, moves', hmid, hperforms, hlater, hmoves'⟩ :=
    exists_performs_at hstraight hmoves hplay
  have hturn := hperforms.turned_configures hconfigures
  obtain ⟨hround, hcount⟩ := hturn.play (hperforms.straight hmid) hmoves' hlater hidle
  constructor
  · intro k index hk
    have hindex := hround k index hk
    rwa [Nat.zero_add] at hindex
  · intro e he hconfigured
    rcases List.mem_cons.mp he with rfl | he
    · rw [hperforms.after] at hconfigured ⊢
      exact hturn.imageCount hconfigured
    · exact hcount e he hconfigured

/-- Between two images there is a presentation that fails, then an acquisition, then a
configuration. -/
def interrupted : List Move :=
  [.perform (.configure (.ofSize 8 8)), .perform .acquire,
    .inject ({ · with present := some (.backendError "device lost") }), .perform .present,
    .perform .present, .inject ({ · with acquire := some .outOfDateSurface }), .perform .acquire,
    .perform .acquire, .perform .refresh, .perform .present,
    .inject ({ · with nextConfigure := true }), .perform (.configure (.ofSize 4 4)),
    .perform .acquire, .perform .present, .perform .acquire]

theorem images_go_round_interrupted : ∃ st c since,
    attach "gpu" { ofInfo defaultInfo with faults := .none } = some st ∧
    (st.play interrupted).1 = c :: since ∧ since.filterMap Episode.brought = [0, 1, 2, 0] ∧
    ∀ k index, (since.filterMap Episode.brought)[k]? = some index → index = k % 3 := by
  have hst : attach "gpu" { ofInfo defaultInfo with faults := .none } =
      some ⟨⟨"gpu", defaultInfo, none, none, 0⟩, ofInfo defaultInfo⟩ := rfl
  have hmoves : ∀ move ∈ interrupted, move.Straight := by
    simp [interrupted, Move.Straight]
  obtain ⟨-, hround⟩ := images_go_round hst rfl interrupted hmoves
  refine ⟨_, _, _, hst, rfl, rfl, ?_⟩
  refine (hround [] _ _ [] _ (congrArg _ (List.append_nil _).symm)
    ⟨rfl, .ofSize 8 8, rfl, rfl⟩ ?_).1
  have hquiet : ((Stage.play ⟨⟨"gpu", defaultInfo, none, none, 0⟩, ofInfo defaultInfo⟩
      interrupted).1.tail.all fun e => !e.ends) = true := rfl
  rintro e he desc ⟨hreply, config, hrequested, -⟩
  have hends := List.all_eq_true.mp hquiet e he
  rw [Episode.ends_of_requested hrequested hreply] at hends
  cases hends

end Stage

end Native.Simulated

end Presentation
