import Presentation.Vulkan.Transcript

/-!
# A scripted driver

A driver that has no hardware: physical devices, capabilities and failures are
given by a scene. Objects are numbered from 1 in each kind, in the order of
their creation. A function answers with the next code of its queue of codes;
once the queue is empty it succeeds.
-/

set_option autoImplicit false

namespace Presentation.Vulkan

structure SceneFamily where
  flags : QueueFlags
  /-- Whether the family can present, or the code of the query's failure. -/
  presents : Except Code Bool

structure SceneGpu where
  name : List UInt8
  type : Int32
  families : List SceneFamily

/-- The images of a swapchain, and which of them is next in turn. -/
structure SceneSwapchain where
  handle : Handle .swapchain
  images : List Image
  next : Nat

structure Scene where
  gpus : List SceneGpu
  capabilities : Capabilities
  formats : List SurfaceFormat
  modes : List ModeCode
  /-- The codes that each function still has to answer with. -/
  codes : List (String × List Code)
  /-- Indices handed out before images are handed out in turn. -/
  indices : List Nat
  /-- Image counts of the next swapchains, before the requested minimum is used. -/
  counts : List Nat
  created : List Object
  destroyed : List Object
  images : Nat
  buffers : Nat
  swapchains : List SceneSwapchain

/-- A change of a scene while it is played. -/
inductive Scene.Change where
  | gpus (gpus : List SceneGpu)
  | capabilities (capabilities : Capabilities)
  | formats (formats : List SurfaceFormat)
  | modes (modes : List ModeCode)
  | codes (function : String) (codes : List Code)
  | indices (indices : List Nat)
  | counts (counts : List Nat)

namespace Scene

/-- What a surface can do unless the scene says otherwise. -/
def defaultCapabilities : Capabilities where
  minCount := 1
  maxCount := 0
  minExtent := ⟨1, 1⟩
  maxExtent := ⟨4096, 4096⟩
  transform := 1
  alpha := 1
  usage := .colorAttachment

def empty : Scene where
  gpus := []
  capabilities := defaultCapabilities
  formats := []
  modes := []
  codes := []
  indices := []
  counts := []
  created := []
  destroyed := []
  images := 0
  buffers := 0
  swapchains := []

def change (s : Scene) : Change → Scene
  | .gpus gpus => { s with gpus }
  | .capabilities capabilities => { s with capabilities }
  | .formats formats => { s with formats }
  | .modes modes => { s with modes }
  | .codes function codes =>
    { s with codes := (function, codes) :: s.codes.filter (·.1 ≠ function) }
  | .indices indices => { s with indices }
  | .counts counts => { s with counts }

def changeAll (s : Scene) (changes : List Change) : Scene := changes.foldl change s

/-- Objects that were created and not destroyed, by kind. -/
def live (s : Scene) : List Object :=
  Kind.all.flatMap fun kind =>
    s.created.filter fun o => o.kind = kind && !s.destroyed.contains o

/-- The next code of a function. -/
def takeCode (s : Scene) (function : String) : Code × Scene :=
  match s.codes.lookup function with
  | some (code :: rest) => (code, s.change (.codes function rest))
  | _ => (.success, s)

/-- The number of the next object of a kind. -/
def nextId (s : Scene) (kind : Kind) : Nat := (s.created.filter (·.kind = kind)).length + 1

def make (s : Scene) (kind : Kind) : Handle kind × Scene :=
  let handle : Handle kind := ⟨s.nextId kind⟩
  (handle, { s with created := s.created ++ [handle.object] })

/-- The most images that a swapchain gets. -/
def maxImages : Nat := 16

def addSwapchain (s : Scene) (handle : Handle .swapchain) (minImages : Nat) : Scene :=
  let count := min maxImages (s.counts.head?.getD minImages)
  { s with
    counts := s.counts.tail
    images := s.images + count
    swapchains := s.swapchains ++
      [⟨handle, (List.range count).map fun i => ⟨s.images + i + 1⟩, 0⟩] }

/-- The length of the field that holds a device name. -/
def nameLength : Nat := 256

def nameField (name : List UInt8) : List UInt8 :=
  name.take nameLength ++ List.replicate (nameLength - name.length) 0

/-- The next index of a swapchain: a scripted one, else the one whose turn it is. -/
def nextIndex (s : Scene) (handle : Handle .swapchain) : Nat × Scene :=
  match s.indices with
  | index :: rest => (index, { s with indices := rest })
  | [] =>
    let turn := ((s.swapchains.find? (·.handle = handle)).map (·.next)).getD 0
    let advance (sc : SceneSwapchain) : SceneSwapchain :=
      if sc.handle = handle then { sc with next := (sc.next + 1) % sc.images.length } else sc
    (turn, { s with swapchains := s.swapchains.map advance })

def allocate (s : Scene) (count : Nat) : List CommandBuffer × Scene :=
  ((List.range count).map fun i => ⟨s.buffers + i + 1⟩, { s with buffers := s.buffers + count })

/-- Answers with the next code of a function if it is a failure, else as the rest says. -/
def answerOr {α : Type} (s : Scene) (function : String) (succeed : Scene → α × Scene) :
    Except Code α × Scene :=
  let (code, s) := s.takeCode function
  if code = .success then
    let (a, s) := succeed s
    (.ok a, s)
  else (.error code, s)

def create (s : Scene) (what : Creation) : Handle what.kind × Scene :=
  let (handle, s) := s.make what.kind
  match what with
  | .swapchain _ request => (handle, s.addSwapchain handle request.minImages.toNat)
  | _ => (handle, s)

def supports (s : Scene) (gpu : Gpu) (family : Nat) : Except Code Bool :=
  ((s.gpus[gpu.index]?.bind (·.families[family]?)).map (·.presents)).getD (.ok false)

def answer : (c : Call) → Scene → c.Answer × Scene
  | .create what, s => s.answerOr what.function (·.create what)
  | .destroy _ _ handle, s =>
    ((), { s with destroyed := (handle.map Handle.object).toList ++ s.destroyed })
  | c@(.gpus _), s =>
    s.answerOr c.function fun s => ((List.range s.gpus.length).map Gpu.mk, s)
  | .gpuProperties gpu, s =>
    let properties := s.gpus[gpu.index]?.map fun g => ⟨nameField g.name, g.type⟩
    (properties.getD ⟨nameField [], 0⟩, s)
  | .queueFamilies gpu, s =>
    (((s.gpus[gpu.index]?).map (·.families.map (·.flags))).getD [], s)
  | c@(.surfaceSupport gpu family _), s =>
    let (code, s) := s.takeCode c.function
    (if code = .success then s.supports gpu family else .error code, s)
  | c@(.capabilities ..), s => s.answerOr c.function fun s => (s.capabilities, s)
  | c@(.surfaceFormats ..), s => s.answerOr c.function fun s => (s.formats, s)
  | c@(.presentModes ..), s => s.answerOr c.function fun s => (s.modes, s)
  | .queue _ family, s => (⟨family⟩, s)
  | c@(.waitIdle _), s => s.answerOr c.function fun s => ((), s)
  | c@(.swapchainImages _ handle), s =>
    s.answerOr c.function fun s =>
      (((s.swapchains.find? (·.handle = handle)).map (·.images)).getD [], s)
  | c@(.waitForFence ..), s => s.answerOr c.function fun s => ((), s)
  | c@(.resetFence ..), s => s.answerOr c.function fun s => ((), s)
  | c@(.allocate _ _ count), s => s.answerOr c.function (·.allocate count)
  | c@(.beginCommands _), s => s.answerOr c.function fun s => ((), s)
  | .barrier .., s => ((), s)
  | c@(.endCommands _), s => s.answerOr c.function fun s => ((), s)
  | c@(.submit ..), s => s.answerOr c.function fun s => ((), s)
  | c@(.acquire _ handle _), s =>
    let (code, s) := s.takeCode c.function
    if code = .success ∨ code = .suboptimal then
      let (index, s) := s.nextIndex handle
      (.ok ⟨index, code = .suboptimal⟩, s)
    else (.error code, s)
  | c@(.present ..), s =>
    let (code, s) := s.takeCode c.function
    (if code = .success ∨ code = .suboptimal then .ok (code = .suboptimal) else .error code, s)

end Scene

end Presentation.Vulkan
