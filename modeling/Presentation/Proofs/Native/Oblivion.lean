import Mathlib.Data.List.Forall2
import Presentation.Proofs.Native.Stage

/-!
# A configuration forgets

A configuration that succeeds leaves nothing of what a surface and its native
surface were before. Two of them that support the same and have the same faults are
told apart by nothing afterwards, but by the constant between their generations.
-/

set_option autoImplicit false

namespace Presentation

namespace Surface

variable {d : Int} {s t : Surface}

theorem Like.informed (h : s.Like d t) (info : Except Error SurfaceInfo) :
    (s.informed info).Like d (t.informed info) := by
  cases info with
  | error e => exact h
  | ok info => exact h.withInfo info

/-- What comes of a request for a configuration. -/
theorem Acts.of_configure {config : SurfaceConfig} {calls : List (Event Native.interface)}
    {reply : Reply} {s' : Surface} (h : s.Acts (.configure config) calls reply s') :
    (∃ desc images info, config.validate s.info = .ok desc ∧
      calls = [.asked (.configure desc) (.ok ()), .asked .images images, .asked .queryInfo info] ∧
      reply = .unit (.ok ()) ∧ s' = (s.adopt config images).informed info) ∨
    (∃ desc e, config.validate s.info = .ok desc ∧
      calls = [.asked (.configure desc) (.error e)] ∧ reply = .unit (.error e)) ∨
    ∃ e, config.validate s.info = .error e ∧ reply = .unit (.error e) := by
  cases h with
  | configured images info hrequested hdesc =>
    cases hrequested
    exact Or.inl ⟨_, images, info, hdesc, rfl, rfl, rfl⟩
  | refused e hrequested hdesc =>
    cases hrequested
    exact Or.inr (Or.inl ⟨_, e, hdesc, rfl, rfl⟩)
  | rejected hrequested herror =>
    cases hrequested
    exact Or.inr (Or.inr ⟨_, herror, rfl⟩)
  | minimised info hop hconfigured => exact hop.elim
  | idle hop hactive => exact hop.elim

end Surface

namespace Native.Simulated

open Surface (Op Episode)

/-- Simulated surfaces that go on alike, from what either had recorded when they began to. -/
structure Like (m₀ n₀ m n : Simulated) : Prop where
  info : m.info = n.info
  desc : m.desc = n.desc
  outstanding : m.outstanding = n.outstanding
  faults : m.faults = n.faults
  images : m.images = n.images
  next : m.next = n.next
  acquired : ∃ new, m.acquired = m₀.acquired ++ new ∧ n.acquired = n₀.acquired ++ new
  presented : ∃ new, m.presented = m₀.presented ++ new ∧ n.presented = n₀.presented ++ new

variable {m₀ n₀ m n : Simulated}

theorem append_alike {α : Type} {a b a₀ b₀ : List α}
    (h : ∃ new, a = a₀ ++ new ∧ b = b₀ ++ new) (x : α) :
    ∃ new, a ++ [x] = a₀ ++ new ∧ b ++ [x] = b₀ ++ new := by
  obtain ⟨new, rfl, rfl⟩ := h
  exact ⟨new ++ [x], List.append_assoc .., List.append_assoc ..⟩

namespace Like

theorem withFaults (h : Like m₀ n₀ m n) (faults : Faults) :
    Like m₀ n₀ { m with faults } { n with faults } :=
  ⟨h.info, h.desc, h.outstanding, rfl, h.images, h.next, h.acquired, h.presented⟩

theorem withNext (h : Like m₀ n₀ m n) (next : Nat) :
    Like m₀ n₀ { m with next } { n with next } :=
  ⟨h.info, h.desc, h.outstanding, h.faults, h.images, rfl, h.acquired, h.presented⟩

theorem handOut (h : Like m₀ n₀ m n) (index : Nat) :
    Like m₀ n₀ (m.handOut index) (n.handOut index) :=
  ⟨h.info, h.desc, rfl, h.faults, h.images, h.next, append_alike h.acquired index, h.presented⟩

theorem takeBack (h : Like m₀ n₀ m n) (index : Nat) :
    Like m₀ n₀ { m with outstanding := none, presented := m.presented ++ [index] }
      { n with outstanding := none, presented := n.presented ++ [index] } :=
  ⟨h.info, h.desc, rfl, h.faults, h.images, h.next, h.acquired, append_alike h.presented index⟩

theorem withCount (h : Like m₀ n₀ m n) (count count' : Nat) :
    Like m₀ n₀ { m with configures := count } { n with configures := count' } :=
  ⟨h.info, h.desc, h.outstanding, h.faults, h.images, h.next, h.acquired, h.presented⟩

/-- The swapchain is another, from its first image on. -/
theorem renew (h : Like m₀ n₀ m n) (desc : SwapchainDesc) :
    Like m₀ n₀
      { m with images := imagesOf desc, next := 0, outstanding := none, desc := some desc }
      { n with images := imagesOf desc, next := 0, outstanding := none, desc := some desc } :=
  ⟨h.info, rfl, rfl, h.faults, rfl, rfl, h.acquired, h.presented⟩

theorem queryInfo (h : Like m₀ n₀ m n) : m.queryInfo = n.queryInfo := by
  rw [Simulated.queryInfo, Simulated.queryInfo, h.faults, h.info]

theorem unconfigure (h : Like m₀ n₀ m n) : Like m₀ n₀ m.unconfigure n.unconfigure :=
  ⟨h.info, rfl, rfl, h.faults, rfl, h.next, h.acquired, h.presented⟩

end Like

/-- A configuration that succeeds overwrites the swapchain, whatever it was. -/
theorem configure_like (hinfo : m.info = n.info) (hfaults : m.faults = n.faults)
    {desc : SwapchainDesc} (h : (m.configure desc).1 = .ok ()) :
    Like m n (m.configure desc).2 (n.configure desc).2 := by
  revert h
  simp only [configure, hfaults]
  split
  · rintro ⟨⟩
  · split
    · rintro ⟨⟩
    · intro _
      exact ⟨hinfo, rfl, rfl, rfl, rfl, rfl, ⟨[], by simp⟩, ⟨[], by simp⟩⟩

/-- Simulated surfaces that are alike answer alike. -/
theorem answer_alike (h : Like m₀ n₀ m n) (c : Call) :
    (answer c m).1 = (answer c n).1 ∧ Like m₀ n₀ (answer c m).2 (answer c n).2 := by
  have hsame := h
  obtain ⟨info, _, _, _, _, desc, outstanding, _, faults, images, next⟩ := m
  obtain ⟨_, _, _, _, _, _, _, _, _, _, _⟩ := n
  obtain ⟨⟨⟩, ⟨⟩, ⟨⟩, ⟨⟩, ⟨⟩, ⟨⟩, -, -⟩ := hsame
  cases c with
  | queryInfo => exact ⟨rfl, h⟩
  | configure desc =>
    simp only [answer, configure]
    split
    · exact ⟨rfl, (h.withCount _ _).withFaults _⟩
    · split
      · exact ⟨rfl, h.withCount _ _⟩
      · exact ⟨rfl, (h.withCount _ _).renew desc⟩
  | unconfigure => exact ⟨rfl, h.unconfigure⟩
  | images => exact ⟨rfl, h⟩
  | acquire =>
    simp only [answer, acquire]
    split
    · exact ⟨rfl, h⟩
    · split
      · exact ⟨rfl, h⟩
      · split
        · exact ⟨rfl, h⟩
        · split
          · exact ⟨rfl, h.withFaults _⟩
          · exact ⟨rfl, (h.withFaults _).handOut _⟩
          · exact ⟨rfl, (h.withNext _).handOut _⟩
  | present index =>
    simp only [answer, present]
    split
    · exact ⟨rfl, h⟩
    · split
      · exact ⟨rfl, h.withFaults _⟩
      · exact ⟨rfl, h.takeBack index⟩

namespace Stage

variable {d : Int} {st st' : Stage}

/-- Stages that are alike are alike after an operation, and show the same of it. -/
theorem perform_alike (hs : st.surface.Like d st'.surface)
    (hn : Like m₀ n₀ st.native st'.native) (op : Op) :
    ∃ e e' next next', st.perform op = some (e, next) ∧ st'.perform op = some (e', next') ∧
      e.Like d e' ∧ next.surface.Like d next'.surface ∧ Like m₀ n₀ next.native next'.native := by
  obtain ⟨⟨reply, s⟩, ⟨reply', s'⟩, hend, hend', ⟨hreply, hsurface⟩, hpeers⟩ :=
    (Surface.perform_alike hs op).run (S := Like m₀ n₀) (fun c _ _ h => answer_alike h c) hn
  refine ⟨_, _, ⟨s, _⟩, ⟨s', _⟩, by simp only [perform, hend]; rfl,
    by simp only [perform, hend']; rfl, ?_, hsurface, hpeers⟩
  exact Episode.like_of_surfaces rfl hreply hsurface

theorem play_alike (hs : st.surface.Like d st'.surface) (hn : Like m₀ n₀ st.native st'.native)
    (moves : List Move) :
    List.Forall₂ (Episode.Like d) (st.play moves).1 (st'.play moves).1 ∧
      Like m₀ n₀ (st.play moves).2.native (st'.play moves).2.native := by
  induction moves generalizing st st' with
  | nil => exact ⟨.nil, hn⟩
  | cons move moves ih =>
    cases move with
    | inject change =>
      have hinjected : Like m₀ n₀ (st.inject change).native (st'.inject change).native := by
        simp only [inject, hn.faults]
        exact hn.withFaults _
      exact ih hs hinjected
    | perform op =>
      obtain ⟨e, e', next, next', heq, heq', he, hs, hn⟩ := perform_alike hs hn op
      obtain ⟨hepisodes, hnatives⟩ := ih hs hn
      simp only [play, heq, heq']
      exact ⟨.cons he hepisodes, hnatives⟩

/-- A configuration that succeeds leaves what it brings, and the snapshot that is taken then. -/
structure Configured (st : Stage) (config : SurfaceConfig) (desc : SwapchainDesc) (next : Stage) :
    Prop where
  validated : config.validate st.surface.info = .ok desc
  accepted : (st.native.configure desc).1 = .ok ()
  surface : next.surface =
    (st.surface.adopt config (imagesOf desc)).informed next.native.queryInfo
  native : next.native = (st.native.configure desc).2

theorem configure_performs (st : Stage) (config : SurfaceConfig) :
    ∃ e next, st.perform (.configure config) = some (e, next) ∧
      st.Performs (.configure config) e next ∧
      e.reply = .unit (do (st.native.configure (← config.validate st.surface.info)).1) ∧
      (e.reply = .unit (.ok ()) → ∃ desc, st.Configured config desc next) := by
  obtain ⟨e, next, heq, h⟩ := st.exists_performs (.configure config)
  have hreplays := h.replays
  refine ⟨e, next, heq, h, ?_⟩
  rcases h.acts.of_configure with ⟨desc, images, info, hdesc, hcalls, hreply, hnext⟩ |
    ⟨desc, error, hdesc, hcalls, hreply⟩ | ⟨error, herror, hreply⟩
  · rw [hcalls] at hreplays
    obtain ⟨hok, rfl, rfl, hnative⟩ := hreplays
    have himages := configure_images hok.symm
    refine ⟨?_, ?_⟩
    · rw [hreply, hdesc]
      exact congrArg _ hok
    · intro _
      refine ⟨desc, hdesc, hok.symm, ?_, hnative⟩
      rw [hnext, ← himages, hnative]
      rfl
  · rw [hcalls] at hreplays
    obtain ⟨hfail, -⟩ := hreplays
    refine ⟨?_, ?_⟩
    · rw [hreply, hdesc]
      exact congrArg _ hfail
    · intro hok
      cases hreply.symm.trans hok
  · refine ⟨?_, ?_⟩
    · rw [hreply, herror]
      rfl
    · intro hok
      cases hreply.symm.trans hok

/-- A configuration that succeeds makes two stages alike. -/
theorem Configured.alike {config : SurfaceConfig} {desc desc' : SwapchainDesc} {next next' : Stage}
    (h : st.Configured config desc next) (h' : st'.Configured config desc' next')
    (hinfo : st.surface.info = st'.surface.info) (hnative : st.native.info = st'.native.info)
    (hfaults : st.native.faults = st'.native.faults) :
    next.surface.Like (st'.surface.generation - st.surface.generation) next'.surface ∧
      Like st.native st'.native next.native next'.native := by
  have hdesc := h.validated
  rw [hinfo, h'.validated] at hdesc
  cases hdesc
  have hn : Like st.native st'.native next.native next'.native := by
    rw [h.native, h'.native]
    exact configure_like hnative hfaults h.accepted
  refine ⟨?_, hn⟩
  rw [h.surface, h'.surface, hn.queryInfo]
  exact (Surface.like_adopt hinfo (by omega) config (imagesOf _)).informed _

/-- A configuration that succeeds erases what was before. On two stages with the same snapshot
whose windows can do the same and have the same faults, the same configuration has the same
result; and if it succeeds, whatever moves follow are all made and show the same on both, but that
generations differ by what they differed by before. -/
theorem configuration_erases_history (st st' : Stage)
    (hinfo : st.surface.info = st'.surface.info) (hnative : st.native.info = st'.native.info)
    (hfaults : st.native.faults = st'.native.faults) (config : SurfaceConfig) :
    ∃ result e e' next next', st.perform (.configure config) = some (e, next) ∧
      st'.perform (.configure config) = some (e', next') ∧
      e.reply = .unit result ∧ e'.reply = .unit result ∧
      (result = .ok () → ∀ moves,
        (next.play moves).1.map (·.op) = moves.filterMap Move.op? ∧
        List.Forall₂ (Episode.Like (st'.surface.generation - st.surface.generation))
          (e :: (next.play moves).1) (e' :: (next'.play moves).1) ∧
        (∃ new, (next.play moves).2.native.acquired = st.native.acquired ++ new ∧
          (next'.play moves).2.native.acquired = st'.native.acquired ++ new) ∧
        ∃ new, (next.play moves).2.native.presented = st.native.presented ++ new ∧
          (next'.play moves).2.native.presented = st'.native.presented ++ new) := by
  obtain ⟨e, next, heq, h, hreply, hdone⟩ := st.configure_performs config
  obtain ⟨e', next', heq', h', hreply', hdone'⟩ := st'.configure_performs config
  have hconfigure : ∀ desc, (st'.native.configure desc).1 = (st.native.configure desc).1 :=
    configure_fst hfaults.symm
  have hresult : e'.reply = e.reply := by
    rw [hreply, hreply', hinfo]
    simp only [hconfigure]
  refine ⟨_, e, e', next, next', heq, heq', hreply, hresult.trans hreply, ?_⟩
  intro hok moves
  have hok' : e.reply = .unit (.ok ()) := hreply.trans (congrArg _ hok)
  obtain ⟨desc, hconfigured⟩ := hdone hok'
  obtain ⟨desc', hconfigured'⟩ := hdone' (hresult.trans hok')
  obtain ⟨hs, hn⟩ := hconfigured.alike hconfigured' hinfo hnative hfaults
  have he : e.Like (st'.surface.generation - st.surface.generation) e' := by
    apply Episode.like_of_surfaces (h.op_eq.trans h'.op_eq.symm)
    · rw [hresult, hok']
      rfl
    · rw [h.after, h'.after]
      exact hs
  obtain ⟨hepisodes, hnatives⟩ := play_alike hs hn moves
  exact ⟨play_ops next moves, .cons he hepisodes, hnatives.acquired, hnatives.presented⟩

/-- A surface that was never configured. -/
def fresh : Stage := ⟨⟨"gpu", defaultInfo, none, none, 0⟩, .ofInfo defaultInfo⟩

/-- A surface that holds an image. -/
def holding : Stage := (fresh.play [.perform (.configure (.ofSize 8 8)), .perform .acquire]).2

/-- After a configuration, a surface that held an image shows what one does that was never
configured before. -/
theorem configuration_erases_held_image : ∃ e e' next next',
    fresh.perform (.configure (.ofSize 4 4)) = some (e, next) ∧
    holding.perform (.configure (.ofSize 4 4)) = some (e', next') ∧
    List.Forall₂ (Episode.Like 1) (e :: (next.play [.perform .acquire, .perform .present]).1)
      (e' :: (next'.play [.perform .acquire, .perform .present]).1) := by
  obtain ⟨result, e, e', next, next', heq, heq', hreply, -, h⟩ :=
    configuration_erases_history fresh holding rfl rfl rfl (.ofSize 4 4)
  have hok : result = .ok () := by
    cases heq
    exact (Surface.Reply.unit.inj hreply).symm
  exact ⟨e, e', next, next', heq, heq', (h hok _).2.1⟩

end Stage

end Native.Simulated

end Presentation
