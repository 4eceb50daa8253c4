import Mathlib.Logic.Relation
import NcpHost.Proofs.Host.Move
import NcpHost.Proofs.Link.Pieces

/-! What a host does about the frames it is told of, errand by errand. Nothing is read on the
way and no frame is repeated, so a relation that errands keep, and with them the first steps
of the answer to a payload, spans all that comes of a piece of the line. -/
namespace NcpHost.Host

open Relation

inductive Errand (host : Host) : Host → Prop
  | note (note : Note) : Errand host (host.note note)
  | ready : Errand host (host.report .adapterReady)
  | mode (mode : Mode) : Errand host (host.setMode mode)
  /-- The oldest command goes out if it can; nothing else is in flight. -/
  | send : Errand host { host with waiting := false }.sendNext.2
  | launched : Errand host { host with launchPending := false }
  | enter (goal : MenuEntry) : Errand host (host.enterBootloader goal)

abbrev Errands : Host → Host → Prop := ReflTransGen Errand

variable {host host' : Host}

namespace Errands

theorem attempt {undertaking : Undertaking} {result : Except HostError Unit × Host}
    (errands : Errands host result.2) : Errands host (attempt undertaking result) := by
  rcases attempt_cases undertaking result with same | ⟨error, same⟩
  · rw [same]
    exact errands
  · rw [same]
    exact errands.tail (.note _)

theorem sendNext (host : Host) : Errands host host.sendNext.2 := by
  rcases host.sendNext_cases with ⟨-, same⟩ | same
  · rw [same]
  · rw [same]
    exact .single .send

theorem resend (host : Host) (undertaking : Undertaking) :
    Errands host (host.resend undertaking) :=
  attempt (.single .send)

/-- What a settled command leads to. -/
theorem complete (host : Host) (response : Ezsp.Frame) (command : Ezsp.Command)
    (later : List Ezsp.Command) :
    Errands (host.answeredBy response command later) (host.complete response command later) := by
  rw [complete_eq]
  split
  · exact (ReflTransGen.single .launched).tail (.enter .upload)
  · exact (sendNext _).attempt

theorem handleConnected (host : Host) (code : Wire.ResetCode) :
    Errands host (host.handleConnected code) := by
  have noted : Errands host (host.note (.linkUp code)) := .single (.note _)
  have ready : Errands host (host.ready code) := (noted.tail (.mode .application)).tail .ready
  rcases host.handleConnected_cases code with same | same
  · rw [same]
    exact ready.trans (resend _ _)
  · rw [same]
    exact (ready.tail (.note _)).trans (resend _ _)

theorem nakObserved (host : Host) (number : UInt8) :
    Errands host (host.handleLinkEvent (.nakObserved number)) :=
  (ReflTransGen.single (.note _)).trans (resend _ _)

end Errands

/-! A relation that every errand keeps. -/

section
variable {R : Host → Host → Prop} (refl : ∀ host, R host host)
  (trans : ∀ {host host' last}, R host host' → R host' last → R host last)
  (errand : ∀ {host host'}, Errand host host' → R host host')
include refl trans errand

theorem Errands.relate (errands : Errands host host') : R host host' := by
  induction errands with
  | refl => exact refl host
  | tail _ last ih => exact trans ih (errand last)

variable (acknowledged : ∀ host : Host, R host host.acknowledged)
  (heard : ∀ (host : Host) frame, R host (host.heard frame))
  (answered : ∀ (host : Host) response command later,
    R host (host.answeredBy response command later))
include acknowledged heard answered

theorem relate_handlePayload (host : Host) (payload : List UInt8) :
    R host (host.handlePayload payload) := by
  have replied : R host host.acknowledge := by
    rcases host.acknowledge_cases with ⟨-, same⟩ | ⟨-, same | ⟨error, same⟩⟩
    · rw [same]
      exact refl host
    · rw [same]
      exact acknowledged host
    · rw [same]
      exact trans (acknowledged host) (errand (.note _))
  rcases host.handlePayload_cases payload with ⟨error, -, same⟩ | ⟨frame, -, told⟩
  · rw [same]
    exact trans replied (errand (.note _))
  · have informed : R host (host.acknowledge.heard frame) := trans replied (heard _ frame)
    rcases told with same | ⟨-, command, later, -, -, same⟩
    · rw [same]
      exact trans informed (errand (.note _))
    · rw [same]
      refine trans (trans informed (answered _ frame command later)) ?_
      exact (Errands.complete _ frame command later).relate refl trans errand

/-- The relation spans the handling of all that is told of frames. -/
theorem relate_foldl_told {up : Bool} {frames : List Wire.Frame} (events : List LinkEvent)
    (told : ∀ event ∈ events, event ∈ Wire.Frame.told up frames) (host : Host) :
    R host (events.foldl handleLinkEvent host) := by
  induction events generalizing host with
  | nil => exact refl host
  | cons event later ih =>
    obtain ⟨first, rest⟩ := List.forall_mem_cons.mp told
    refine trans ?_ (ih rest _)
    rcases Wire.Frame.mem_of_told first with ⟨payload, rfl⟩ | ⟨asked, rfl, -⟩ | ⟨code, rfl, -⟩
    · exact relate_handlePayload refl trans errand acknowledged heard answered host payload
    · exact (Errands.nakObserved host asked).relate refl trans errand
    · exact (Errands.handleConnected host code).relate refl trans errand

end
end NcpHost.Host
