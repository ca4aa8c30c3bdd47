import QuerySession.Session.LocationCalls
import QuerySession.Storage.Local

/-!
# Sessions on one disk

A storage answers what comes out of its call, and is left as the call leaves it.  `Answered` says so
of the calls that a session makes while it makes and deletes its locations, one after the other in
the order in which they are answered.  Workspaces on one disk may each have a local storage of their
own; such handles share the disk, and each has a schedule.

## Main Definitions

* `LocationCalls.served`, `LocationCalls.Answered` — what storage calls leave, and that they
  answered so
* `Handles` — local storages on one disk, by name
* `Handles.storages` — the calls on them
-/

namespace QuerySession

/-! ### What storages answer -/

namespace LocationCalls

variable {σ : Type}

/-- What the call leaves that a storage answered when something happened. -/
def Happening.leaves (storages : Storages σ) (spans : List String) (scene : Scene σ) :
    Happening → Scene σ
  | .createAnswered _ storage path _ =>
    ((storages.create storage path .temporary).outcome spans scene).2
  | .probeAnswered _ storage path _ => ((storages.probe storage path).outcome spans scene).2
  | .deleteAnswered _ storage path _ => ((storages.delete storage path true).outcome spans scene).2
  | _ => scene

/-- Whether a storage that answered has answered what comes out of its call. -/
def Happening.Tells (storages : Storages σ) (spans : List String) (scene : Scene σ) :
    Happening → Prop
  | .createAnswered _ storage path answer =>
    ((storages.create storage path .temporary).outcome spans scene).1 = answer
  | .probeAnswered _ storage path answer =>
    ((storages.probe storage path).outcome spans scene).1 = answer
  | .deleteAnswered _ storage path answer =>
    ((storages.delete storage path true).outcome spans scene).1 = answer
  | _ => True

/-- What is left when all this has happened. -/
def served (storages : Storages σ) (spans : List String) (scene : Scene σ) (h : List Happening) :
    Scene σ :=
  h.foldl (Happening.leaves storages spans) scene

/-- Storages have answered what comes out of their calls, all along. -/
def Answered (storages : Storages σ) (spans : List String) : Scene σ → List Happening → Prop
  | _, [] => True
  | scene, e :: h =>
    e.Tells storages spans scene ∧ Answered storages spans (e.leaves storages spans scene) h

end LocationCalls

/-! ### Local storages on one disk -/

/-- Local storages on one disk, by name: the disk, and the schedule of each. -/
structure Handles where
  disk : Disk
  schedules : String → List (List String)

namespace Handles

/-- The local storage with a name. -/
def handle (h : Handles) (name : String) : LocalStorage := ⟨h.disk, h.schedules name⟩

/-- The local storage with a name is left as `s`. -/
def put (name : String) (s : LocalStorage) (h : Handles) : Handles :=
  ⟨s.disk, fun other => if other = name then s.schedule else h.schedules other⟩

/-- The calls on local storages. -/
def storages : Storages Handles where
  uri _ := LocalStorage.uri
  probe name p := .focus (·.handle name) (put name) (LocalStorage.probe p)
  create name p strategy := .focus (·.handle name) (put name) (LocalStorage.create p strategy)
  delete name p recursive := .focus (·.handle name) (put name) (LocalStorage.delete p recursive)

end Handles

end QuerySession
