import Presentation.Proofs.Native.Stage
import Presentation.Proofs.Surface.Protocol

/-!
# The custody of images

A simulated window keeps lists of the images that it handed out and of those
that were presented. The image that is out is the one that its surface holds,
or one that the pool of the surface does not have. Every image that was handed
out was presented once, is still out, or went with its swapchain.
-/

set_option autoImplicit false

namespace Presentation

namespace Native.Simulated

open Surface (Op Episode)

variable {n n' : Simulated} {desc : SwapchainDesc} {e : Error} {index lost : Nat}

/-- The next presentation is not told to fail as if the surface were out of date. -/
def Mild (n : Simulated) : Prop := n.faults.present ≠ some .outOfDateSurface

/-- A call that was of no consequence to images. -/
structure Stays (n n' : Simulated) : Prop where
  desc : n'.desc = n.desc
  outstanding : n'.outstanding = n.outstanding
  acquired : n'.acquired = n.acquired
  presented : n'.presented = n.presented
  images : n'.images = n.images
  next : n'.next = n.next

theorem Stays.refl (n : Simulated) : n.Stays n := ⟨rfl, rfl, rfl, rfl, rfl, rfl⟩

structure HandsOut (n : Simulated) (index : Nat) (n' : Simulated) : Prop where
  free : n.outstanding = none
  outstanding : n'.outstanding = some index
  acquired : n'.acquired = n.acquired ++ [index]
  presented : n'.presented = n.presented
  desc : n'.desc = n.desc
  images : n'.images = n.images
  /-- Unless a stray index comes first, it is the turn of the image, and then of the next. -/
  turn : n.faults.strayIndex = none →
    index = n.next ∧ n'.next = (n.next + 1) % n.images.length

structure TakesBack (n : Simulated) (index : Nat) (n' : Simulated) : Prop where
  out : n.outstanding = some index
  outstanding : n'.outstanding = none
  acquired : n'.acquired = n.acquired
  presented : n'.presented = n.presented ++ [index]
  desc : n'.desc = n.desc

/-- There is a swapchain as described, or none, and no image of it is out. -/
structure StartsOver (n : Simulated) (desc : Option SwapchainDesc) (n' : Simulated) : Prop where
  desc : n'.desc = desc
  outstanding : n'.outstanding = none
  acquired : n'.acquired = n.acquired
  presented : n'.presented = n.presented

theorem configure_renews (h : (n.configure desc).1 = .ok ()) :
    n.StartsOver (some desc) (n.configure desc).2 := by
  revert h
  simp only [configure]
  split
  · rintro ⟨⟩
  · split
    · rintro ⟨⟩
    · exact fun _ => ⟨rfl, rfl, rfl, rfl⟩

theorem configure_refuses (h : (n.configure desc).1 = .error e) :
    n.Stays (n.configure desc).2 := by
  revert h
  simp only [configure]
  split
  · exact fun _ => ⟨rfl, rfl, rfl, rfl, rfl, rfl⟩
  · split
    · exact fun _ => ⟨rfl, rfl, rfl, rfl, rfl, rfl⟩
    · rintro ⟨⟩

theorem acquire_hands_out (h : n.acquire.1 = .ok index) : n.HandsOut index n.acquire.2 := by
  revert h
  simp only [acquire]
  split
  · rintro ⟨⟩
  · split
    · rintro ⟨⟩
    · rename_i hfree
      have hnone : n.outstanding = none := by simpa using hfree
      split
      · rintro ⟨⟩
      · split
        · rintro ⟨⟩
        · rename_i hstray
          rintro ⟨⟩
          exact ⟨hnone, rfl, rfl, rfl, rfl, rfl, fun h => by cases hstray.symm.trans h⟩
        · rintro ⟨⟩
          exact ⟨hnone, rfl, rfl, rfl, rfl, rfl, fun _ => ⟨rfl, rfl⟩⟩

theorem acquire_refuses (h : n.acquire.1 = .error e) : n.Stays n.acquire.2 := by
  revert h
  simp only [acquire]
  split
  · exact fun _ => .refl n
  · split
    · exact fun _ => .refl n
    · split
      · exact fun _ => .refl n
      · split
        · exact fun _ => ⟨rfl, rfl, rfl, rfl, rfl, rfl⟩
        · rintro ⟨⟩
        · rintro ⟨⟩

/-- A presentation that is taken, in time or too late, is of the image that is out. -/
theorem present_takes_back (hmild : n.Mild) (h : (n.present index).1 = .ok () ∨
    (n.present index).1 = .error .outOfDateSurface) : n.TakesBack index (n.present index).2 := by
  revert h
  simp only [present]
  split
  · rintro (⟨⟨⟩⟩ | ⟨⟨⟩⟩)
  · rename_i hout
    split
    · rename_i fault hfault
      rintro (⟨⟨⟩⟩ | h)
      cases h
      exact absurd hfault hmild
    · exact fun _ => ⟨not_not.mp hout, rfl, rfl, rfl, rfl⟩

theorem present_refuses (h : (n.present index).1 = .error e) (hne : e ≠ .outOfDateSurface) :
    n.Stays (n.present index).2 := by
  revert h
  simp only [present]
  split
  · exact fun _ => .refl n
  · split
    · exact fun _ => ⟨rfl, rfl, rfl, rfl, rfl, rfl⟩
    · split
      · rintro ⟨⟩
        exact absurd rfl hne
      · rintro ⟨⟩

/-- Of the faults that last until they strike, some may be gone. -/
structure Spends (n n' : Simulated) : Prop where
  present : n'.faults.present = n.faults.present ∨ n'.faults.present = none
  strayIndex : n'.faults.strayIndex = n.faults.strayIndex ∨ n'.faults.strayIndex = none

theorem Spends.refl (n : Simulated) : n.Spends n := ⟨Or.inl rfl, Or.inl rfl⟩

theorem Spends.trans {m : Simulated} (h : n.Spends m) (h' : m.Spends n') : n.Spends n' where
  present := h'.present.elim (fun hsame => hsame ▸ h.present) Or.inr
  strayIndex := h'.strayIndex.elim (fun hsame => hsame ▸ h.strayIndex) Or.inr

theorem Spends.mild (h : n.Spends n') (hmild : n.Mild) : n'.Mild := by
  unfold Mild
  rcases h.present with hsame | hnone
  · rwa [hsame]
  · rw [hnone]
    exact nofun

/-- No call sets a fault. -/
theorem answer_spends (c : Call) (n : Simulated) : n.Spends (answer c n).2 := by
  cases c with
  | queryInfo => exact .refl n
  | images => exact .refl n
  | unconfigure => exact ⟨Or.inl rfl, Or.inl rfl⟩
  | configure desc =>
    simp only [answer, configure]
    split
    · exact ⟨Or.inl rfl, Or.inl rfl⟩
    · split
      · exact ⟨Or.inl rfl, Or.inl rfl⟩
      · exact ⟨Or.inl rfl, Or.inl rfl⟩
  | acquire =>
    simp only [answer, acquire]
    split
    · exact .refl n
    · split
      · exact .refl n
      · split
        · exact .refl n
        · split
          · exact ⟨Or.inl rfl, Or.inl rfl⟩
          · exact ⟨Or.inl rfl, Or.inr rfl⟩
          · exact ⟨Or.inl rfl, Or.inl rfl⟩
  | present index =>
    simp only [answer, present]
    split
    · exact .refl n
    · split
      · exact ⟨Or.inr rfl, Or.inl rfl⟩
      · exact ⟨Or.inl rfl, Or.inl rfl⟩

theorem replays_spends {calls : List (Event interface)}
    (h : Program.Replays answer calls n n') : n.Spends n' := by
  induction calls generalizing n with
  | nil => exact h ▸ .refl n
  | cons call calls ih =>
    cases call with
    | noted entry => exact ih h
    | asked c a => exact (answer_spends c n).trans (ih h.2)

/-- What became of the images that were handed out: those that are settled came first, and of
them the presented ones in their order. -/
structure Custody (n : Simulated) (lost : Nat) : Prop where
  order : ∃ settled, n.acquired = settled ++ n.outstanding.toList ∧ n.presented.Sublist settled
  count : n.acquired.length = n.presented.length + n.outstanding.toList.length + lost

namespace Custody

theorem stays (h : n.Custody lost) (hs : n.Stays n') : n'.Custody lost where
  order := by
    rw [hs.acquired, hs.outstanding, hs.presented]
    exact h.order
  count := by
    rw [hs.acquired, hs.outstanding, hs.presented]
    exact h.count

theorem sublist (h : n.Custody lost) : n.presented.Sublist n.acquired := by
  obtain ⟨settled, hacquired, hpresented⟩ := h.order
  rw [hacquired]
  exact hpresented.trans (List.sublist_append_left settled _)

theorem handsOut (h : n.Custody lost) (hs : n.HandsOut index n') : n'.Custody lost where
  order := by
    rw [hs.acquired, hs.outstanding, hs.presented]
    exact ⟨n.acquired, rfl, h.sublist⟩
  count := by
    have hcount := h.count
    rw [hs.free] at hcount
    rw [hs.acquired, hs.outstanding, hs.presented, List.length_append, hcount]
    simp only [Option.toList_none, Option.toList_some, List.length_nil, List.length_singleton]
    omega

theorem takesBack (h : n.Custody lost) (hs : n.TakesBack index n') : n'.Custody lost where
  order := by
    obtain ⟨settled, hacquired, hpresented⟩ := h.order
    rw [hs.outstanding, hs.acquired, hs.presented]
    refine ⟨n.acquired, (List.append_nil _).symm, ?_⟩
    rw [hacquired, hs.out]
    exact hpresented.append (List.Sublist.refl [index])
  count := by
    have hcount := h.count
    rw [hs.out] at hcount
    rw [hs.acquired, hs.outstanding, hs.presented, List.length_append, hcount]
    rfl

/-- The image that is out goes with its swapchain. -/
theorem startsOver {next : Option SwapchainDesc} (h : n.Custody lost)
    (hs : n.StartsOver next n') : n'.Custody (lost + n.outstanding.toList.length) where
  order := by
    rw [hs.outstanding, hs.acquired, hs.presented]
    exact ⟨n.acquired, (List.append_nil _).symm, h.sublist⟩
  count := by
    have hcount := h.count
    rw [hs.outstanding, hs.acquired, hs.presented, Option.toList_none, List.length_nil]
    omega

end Custody

namespace Stage

variable {st st' : Stage} {ep : Episode interface} {past : List (Episode interface)}

/-- What an episode comes to, for the surface and for its window. -/
inductive Moves (st : Stage) (ep : Episode interface) (st' : Stage) : Prop
  | stayed : ep.ends = false → (∀ desc, ¬ ep.Configures desc) →
      st'.surface.active = st.surface.active → st.native.Stays st'.native → st.Moves ep st'
  | renewed {desc : SwapchainDesc} {active : ActiveConfig} : ep.ends = true →
      ep.Configures desc → st'.surface.active = some active → active.Accounts [] →
      active.pool.images ≠ [] → st.native.StartsOver (some desc) st'.native → st.Moves ep st'
  | ended : ep.ends = true → (∀ desc, ¬ ep.Configures desc) → st'.surface.active = none →
      st.native.StartsOver none st'.native → st.Moves ep st'
  | handedOut {active active' : ActiveConfig} {index : Nat} : ep.ends = false →
      (∀ desc, ¬ ep.Configures desc) → st.surface.active = some active →
      st'.surface.active = some active' → active'.Accounts [index] →
      active'.pool = active.pool → st.native.HandsOut index st'.native → st.Moves ep st'
  | takenBack {active : ActiveConfig} {index : Nat} : ep.ends = false →
      (∀ desc, ¬ ep.Configures desc) → st.surface.active = some active →
      active.acquired = some index →
      st'.surface.active = some { active with acquired := none } →
      st.native.TakesBack index st'.native → st.Moves ep st'

theorem imagesOf_ne_nil (desc : SwapchainDesc) : imagesOf desc ≠ [] := by
  have hcount : 0 < max minImages (min desc.imageCount.toNat maxImages) :=
    Nat.lt_of_lt_of_le (by decide : 0 < minImages) (Nat.le_max_left _ _)
  intro hnil
  have hlength := congrArg List.length hnil
  rw [imagesOf, List.length_map, List.length_range, List.length_nil] at hlength
  omega

theorem Moves.of_quiet (hop : ¬ ep.op.Minimises)
    (h : ep.reply = .unit (.ok ()) → ep.before.requested ep.op = none)
    (hactive : st'.surface.active = st.surface.active) (hs : st.native.Stays st'.native) :
    st.Moves ep st' :=
  .stayed (Episode.not_ends hop h) (Episode.not_configures h) hactive hs

/-- A configuration that does not succeed moves nothing. -/
theorem Moves.of_failed {config : SurfaceConfig} {error : Error}
    (hrequested : ep.before.requested ep.op = some config)
    (hreply : ep.reply = .unit (.error error))
    (hactive : st'.surface.active = st.surface.active) (hs : st.native.Stays st'.native) :
    st.Moves ep st' := by
  apply Moves.of_quiet _ _ hactive hs
  · intro hminimises
    cases (Surface.requested_of_minimises hminimises).symm.trans hrequested
  · intro hok
    cases hreply.symm.trans hok

/-- An image that the window hands out is held, or the pool does not have it. -/
theorem Moves.of_acquired {active active' : ActiveConfig} {index : Nat} (hop : ep.op = .acquire)
    (hactive : st.surface.active = some active) (hactive' : st'.surface.active = some active')
    (hout : active'.Accounts [index]) (hpool : active'.pool = active.pool)
    (hs : st.native.HandsOut index st'.native) : st.Moves ep st' := by
  have hnone : ep.before.requested ep.op = none := by
    rw [hop]
    rfl
  have hends : ep.ends = false := Episode.not_ends (by rw [hop]; exact id) fun _ => hnone
  exact .handedOut hends (Episode.not_configures fun _ => hnone) hactive hactive' hout hpool hs

theorem Performs.moves {op : Op} (h : st.Performs op ep st') (hmild : st.native.Mild) :
    st.Moves ep st' := by
  obtain ⟨rfl, hbefore, -, hacts, hreplays⟩ := h
  rw [← hbefore] at hacts
  generalize Watch.calls ep.events = calls at hacts hreplays
  generalize hop : ep.op = op at hacts
  generalize hreply : ep.reply = reply at hacts
  generalize hs' : st'.surface = s' at hacts
  cases hacts with
  | @configured _ config desc images info hrequested hdesc =>
    obtain ⟨hok, himages, -, hnative⟩ := hreplays
    rw [← hop] at hrequested
    have hne : images ≠ [] := by
      rw [show images = imagesOf desc from himages.trans (configure_images hok.symm)]
      exact imagesOf_ne_nil desc
    have hactive : st'.surface.active = (ep.before.adopt config images).active := by
      rw [hs', Surface.informed_active]
    refine .renewed (Episode.ends_of_requested hrequested hreply)
      ⟨hreply, config, hrequested, hdesc⟩ hactive ?_ hne (hnative ▸ configure_renews hok.symm)
    simp [ActiveConfig.Accounts, hne]
  | refused e hrequested hdesc =>
    obtain ⟨herror, hnative⟩ := hreplays
    rw [← hop] at hrequested
    exact .of_failed hrequested hreply (by rw [hs', hbefore])
      (hnative ▸ configure_refuses herror.symm)
  | rejected hrequested herror =>
    rw [← hop] at hrequested
    exact .of_failed hrequested hreply (by rw [hs', hbefore]) (hreplays ▸ .refl _)
  | unprecedented harea hnone =>
    exact .of_quiet (hop ▸ harea) (fun hok => by cases hreply.symm.trans hok)
      (by rw [hs', hbefore]) (hreplays ▸ .refl _)
  | minimised info hminimises hconfigured =>
    obtain ⟨-, -, hnative⟩ := hreplays
    rw [← hop] at hminimises
    have hends : ep.ends = true := (Episode.ends_of_minimises hminimises).trans hconfigured
    exact .ended hends (Episode.not_configures fun _ => Surface.requested_of_minimises hminimises)
      (by rw [hs', Surface.informed_active]) (hnative ▸ ⟨rfl, rfl, rfl, rfl⟩)
  | idle hminimises hactive =>
    rw [← hop] at hminimises
    have hends : ep.ends = false := by
      rw [Episode.ends_of_minimises hminimises, Surface.isConfigured, hactive]
      rfl
    exact .stayed hends (Episode.not_configures fun _ => Surface.requested_of_minimises hminimises)
      (by rw [hs', hbefore]) (hreplays ▸ .refl _)
  | @acquired active index texture hactive hfree hstale htexture =>
    obtain ⟨hok, hnative⟩ := hreplays
    rw [hbefore] at hactive
    have hout : ActiveConfig.Accounts { active with acquired := some index } [index] :=
      ⟨rfl, (List.getElem?_eq_some_iff.mp htexture).1, hstale⟩
    exact .of_acquired hop hactive (congrArg Surface.active hs') hout rfl
      (hnative ▸ acquire_hands_out hok.symm)
  | @strayed active index hactive hfree hstray =>
    obtain ⟨hok, hnative⟩ := hreplays
    rw [hbefore] at hactive
    have hout : ActiveConfig.Accounts { active with stale := true } [index] := by
      simp only [ActiveConfig.Accounts, hfree, if_true]
      exact Or.inr ⟨index, rfl, List.getElem?_eq_none_iff.mp hstray⟩
    exact .of_acquired hop hactive (congrArg Surface.active hs') hout rfl
      (hnative ▸ acquire_hands_out hok.symm)
  | missed e =>
    obtain ⟨herror, hnative⟩ := hreplays
    exact .of_quiet (hop ▸ id) (fun _ => hop ▸ rfl) (by rw [hs', hbefore])
      (hnative ▸ acquire_refuses herror.symm)
  | barred e =>
    exact .of_quiet (hop ▸ id) (fun _ => hop ▸ rfl) (by rw [hs', hbefore]) (hreplays ▸ .refl _)
  | @presented index answer hindex hanswer =>
    obtain ⟨htaken, hnative⟩ := hreplays
    obtain ⟨active, hactive, hheld⟩ := Option.bind_eq_some_iff.mp hindex
    have hnone : ep.before.requested ep.op = none := hop ▸ rfl
    refine .takenBack (Episode.not_ends (hop ▸ id) fun _ => hnone)
      (Episode.not_configures fun _ => hnone) (hbefore ▸ hactive) hheld ?_
      (hnative ▸ present_takes_back hmild (htaken ▸ hanswer))
    rw [hs', Surface.released, hactive]
    rfl
  | kept hindex hne =>
    obtain ⟨herror, hnative⟩ := hreplays
    exact .of_quiet (hop ▸ id) (fun _ => hop ▸ rfl) (by rw [hs', hbefore])
      (hnative ▸ present_refuses herror.symm hne)
  | emptyHanded hfree =>
    exact .of_quiet (hop ▸ id) (fun _ => hop ▸ rfl) (by rw [hs', hbefore]) (hreplays ▸ .refl _)
  | refreshed info =>
    obtain ⟨-, hnative⟩ := hreplays
    exact .of_quiet (hop ▸ id) (fun _ => hop ▸ rfl) (by rw [hs', Surface.informed_active, hbefore])
      (hnative ▸ .refl _)
  | looked =>
    exact .of_quiet (hop ▸ id) (fun _ => hop ▸ rfl) (by rw [hs', hbefore]) (hreplays ▸ .refl _)

end Stage

end Native.Simulated

end Presentation
