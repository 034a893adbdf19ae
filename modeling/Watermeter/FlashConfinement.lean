import Watermeter.Application
import Watermeter.StoreConfine
import Watermeter.StoreProgramRuns

/-! The store over the runs of the application: whatever happens in whatever order and at any supply, it
erases and programs nothing but the region of the bank the device does not run from. -/

namespace Watermeter

open Transition

/-- The calls of the store in this step of the application. -/
def App.Confined : App → Supply × AppEvent → Prop := App.Each ConfinedStep

theorem sited_along {b : Bank} {s : OtaDevice} (h : Sited b s) (events : List (Supply × OtaEvent)) :
    Along OtaDevice.step ConfinedStep s events := by
  induction events generalizing b s with
  | nil => exact trivial
  | cons e events ih =>
      obtain ⟨hconfined, b', hnext⟩ := h.step e.1 e.2
      exact ⟨hconfined, ih hnext⟩

theorem sited_run {s : OtaDevice} (h : ∃ b, Sited b s) (events : List (Supply × OtaEvent)) :
    ∃ b, Sited b (run OtaDevice.step s events) := by
  refine run_invariant (P := fun s => ∃ b, Sited b s) (fun s e hs => ?_) h events
  obtain ⟨b, hb⟩ := hs
  exact (hb.step e.1 e.2).2

/-- From a start with any flash and any NV item: no erasure and no record of the store leaves the region, and
none of them makes the device boot from another bank. -/
theorem app_confined {b : Bank} {s : App} (h : Startable b s.nvm) (supply : Supply) (up : PowerUp)
    (events : List (Supply × AppEvent)) : Along App.step App.Confined s ((supply, .userAppInit up) :: events) := by
  have hfirst := h.first supply
  have hstep := App.step_trace s supply (.userAppInit up)
  refine ⟨⟨hfirst.1, trivial⟩, App.along_traces.mpr ?_⟩
  rw [hstep]
  exact sited_along hfirst.2 _

/-- A device with an empty NV item and open contacts. -/
def emptyApp : App :=
  ⟨emptyDevice, ⟨0#8, 1#8⟩, ⟨0#8, 1#8⟩, startAttrs (firstRecord .low)⟩

/-- A start with open contacts. -/
def openStart : PowerUp := ⟨0#8, ⟨true, true⟩⟩

theorem update_confined : Along App.step App.Confined emptyApp
    [(fun _ => 3000, .userAppInit ⟨0#8, ⟨true, true⟩⟩), (fun _ => 2000, .countersHandler ⟨false, true⟩),
      (fun _ => 3000, .imageAccepted 0x1200), (fun _ => 3000, .otaProcessMsg 3000 .otaEvtStart zclStaSuccess ⟨0#8, ⟨true, true⟩⟩),
      (fun _ => 3000, .imageBlock 0 [0xFF#8]), (fun _ => 2000, .userAppInit ⟨0#8, ⟨true, true⟩⟩)] :=
  have h : Startable .low emptyApp.nvm := ⟨neverStarted_empty.boot, Or.inr neverStarted_empty.item⟩
  app_confined h (fun _ => 3000) ⟨0#8, ⟨true, true⟩⟩ _

end Watermeter
