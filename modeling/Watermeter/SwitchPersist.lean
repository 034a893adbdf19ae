import Watermeter.StepMirror

/-! The switch actions of endpoints 4 and 5 over writes and reboots. One NV item holds both, and a save merges the
attributes into it. -/

namespace Watermeter

open NorFlash Transition

/-- `zcl_onOffCfgAttr_restore`. -/
def onOffCfgAttrRestored (attrs : SwitchActions) : NvRead → SwitchActions
  | .succ nv => ⟨nv.ep4, nv.ep5⟩
  | .itemNotFound => attrs
  | .failed => attrs

/-- The initial values in `g_zcl_onOffSwitchCfgAttrs`. -/
def initialSwitchActions : SwitchActions := ⟨zclSwitchActionOnOff, zclSwitchActionOnOff⟩

def SwitchActions.of (a : SwitchActions) (endPoint : BitVec 8) : Byte :=
  if endPoint = watermeterEndpoint4 then a.ep4 else a.ep5

inductive SwitchEvent
  /-- A write command as the stack delivers it, handed on to `app_zclWriteReqCmd`. -/
  | write (endPoint : BitVec 8) (clusterId : BitVec 16) (recs : List SentRec)
  /-- A reboot, and the meter as it is restored. -/
  | reboot (meter : Meter)

namespace WriteDevice

/-- The records that `n` saves in a row write to the NV. -/
def nvWrites : Nat → WriteDevice → List SwitchActions
  | 0, _ => []
  | n + 1, d => (onOffCfgAttrWritten d.switchActions (nvFlashReadNew d.saved)).toList ++ nvWrites n d.zclOnOffCfgAttrSave

/-- The attributes are back to their initial values, and are restored. -/
def reboot (meter : Meter) (d : WriteDevice) : WriteDevice :=
  { d with meter := meter, switchActions := onOffCfgAttrRestored initialSwitchActions (nvFlashReadNew d.saved) }

def switchStep (d : WriteDevice) : SwitchEvent → WriteDevice
  | .write endPoint clusterId recs => d.deliver .write endPoint clusterId recs
  | .reboot meter => d.reboot meter

/-- A device with nothing stored yet. -/
def fresh (meter : Meter) : WriteDevice := ⟨meter, initialSwitchActions, none⟩

end WriteDevice

/-! ### What was written -/

/-- The endpoints and values of the switch actions that an event writes. -/
def SwitchEvent.accepted : SwitchEvent → List (BitVec 8 × Byte)
  | .write endPoint clusterId recs =>
      if clusterId = zclClusterGenOnOffSwitchConfig then
        (recs.filter fun r => Writable endPoint clusterId r).map fun r => (endPoint, r.alone.byte 0)
      else []
  | .reboot _ => []

/-- The last value in a list of writes for an endpoint, or the value before it. -/
def lastFor (endPoint : BitVec 8) (before : Byte) (writes : List (BitVec 8 × Byte)) : Byte :=
  ((writes.filter fun w => w.1 = endPoint).getLast?.map Prod.snd).getD before

/-- The value that was last written to an endpoint, or the initial one. -/
def lastWritten (endPoint : BitVec 8) (events : List SwitchEvent) : Byte :=
  lastFor endPoint zclSwitchActionOnOff (events.flatMap SwitchEvent.accepted)

/-- Endpoints 4 and 5, those with a switch action. -/
def SwitchEndpoint (endPoint : BitVec 8) : Prop := endPoint = watermeterEndpoint4 ∨ endPoint = watermeterEndpoint5

variable {endPoint : BitVec 8} {clusterId : BitVec 16} {recs : List SentRec} {d : WriteDevice}

theorem lastFor_nil (endPoint : BitVec 8) (before : Byte) : lastFor endPoint before [] = before := rfl

theorem lastFor_append (endPoint : BitVec 8) (before : Byte) (xs ys : List (BitVec 8 × Byte)) :
    lastFor endPoint before (xs ++ ys) = lastFor endPoint (lastFor endPoint before xs) ys := by
  rw [lastFor, List.filter_append, List.getLast?_append, lastFor, lastFor]
  cases (ys.filter fun w => w.1 = endPoint).getLast? <;> rfl

theorem lastFor_single (endPoint : BitVec 8) (before : Byte) (w : BitVec 8 × Byte) :
    lastFor endPoint before [w] = if w.1 = endPoint then w.2 else before := by
  by_cases h : w.1 = endPoint <;> simp [lastFor, h]

theorem lastFor_other (before : Byte) {writes : List (BitVec 8 × Byte)} (h : ∀ w ∈ writes, w.1 ≠ endPoint) :
    lastFor endPoint before writes = before := by
  have hnone : writes.filter (fun w => w.1 = endPoint) = [] :=
    List.filter_eq_nil_iff.mpr fun w hw => by simpa using h w hw
  rw [lastFor, hnone]
  rfl

theorem lastWritten_append (endPoint : BitVec 8) (events : List SwitchEvent) (e : SwitchEvent) :
    lastWritten endPoint (events ++ [e]) = lastFor endPoint (lastWritten endPoint events) e.accepted := by
  rw [lastWritten, List.flatMap_append, lastFor_append, List.flatMap_singleton, lastWritten]

/-! ### Saving -/

namespace WriteDevice

theorem nvWrites_saved {n : Nat} (h : d.saved = some d.switchActions) : nvWrites n d = [] := by
  induction n generalizing d with
  | zero => rfl
  | succ n ih =>
      rw [nvWrites, onOffCfgAttrWritten_eq, if_pos h, Option.toList_none, List.nil_append]
      apply ih
      rw [zclOnOffCfgAttrSave_eq]

/-- Any number of saves in a row write the NV at most once. -/
theorem length_nvWrites (n : Nat) (d : WriteDevice) : (nvWrites n d).length ≤ 1 := by
  cases n with
  | zero => exact Nat.zero_le 1
  | succ n =>
      have hrest : nvWrites n d.zclOnOffCfgAttrSave = [] := nvWrites_saved (by rw [zclOnOffCfgAttrSave_eq])
      rw [nvWrites, hrest, List.append_nil]
      cases onOffCfgAttrWritten d.switchActions (nvFlashReadNew d.saved) with
      | none => exact Nat.zero_le 1
      | some nv => exact le_refl 1

/-! ### One write command -/

theorem countP_parsed (recs : List SentRec) :
    (zclParseInWriteCmd recs).countP (·.attrID == zclAttridSwitchAction) =
      recs.countP fun r => r.attrID = zclAttridSwitchAction := by
  induction recs with
  | nil => rfl
  | cons r recs ih =>
      rw [zclParseInWriteCmd, List.countP_cons, List.countP_cons, ih]
      simp only [beq_iff_eq, decide_eq_true_eq]

theorem deliver_switch (d : WriteDevice) (endPoint : BitVec 8) (clusterId : BitVec 16) (recs : List SentRec) :
    (d.deliver .write endPoint clusterId recs).switchActions = (d.zclWriteHandler endPoint clusterId recs).switchActions ∧
      (d.deliver .write endPoint clusterId recs).saved =
        if clusterId = zclClusterGenOnOffSwitchConfig ∧ ∃ r ∈ recs, r.attrID = zclAttridSwitchAction then
          some (d.zclWriteHandler endPoint clusterId recs).switchActions
        else (d.zclWriteHandler endPoint clusterId recs).saved := by
  have hsaves (d : WriteDevice) (n : Nat) : (zclOnOffCfgAttrSave^[n] d).switchActions = d.switchActions ∧
      (zclOnOffCfgAttrSave^[n] d).saved = if 0 < n then some d.switchActions else d.saved := by
    cases n with
    | zero => exact ⟨rfl, rfl⟩
    | succ n => rw [iterate_save, if_pos (Nat.succ_pos n)]; exact ⟨rfl, rfl⟩
  obtain ⟨hattrs, hsaved⟩ := hsaves
    { d.zclWriteHandler endPoint clusterId recs with
      meter := (appZclWriteReqCmd endPoint clusterId (zclParseInWriteCmd recs)
        (d.zclWriteHandler endPoint clusterId recs).meter).1 }
    (appZclWriteReqCmd endPoint clusterId (zclParseInWriteCmd recs)
      (d.zclWriteHandler endPoint clusterId recs).meter).2
  refine ⟨hattrs, hsaved.trans (if_congr ?_ rfl rfl)⟩
  show (0 < if clusterId = zclClusterGenOnOffSwitchConfig then
    (zclParseInWriteCmd recs).countP (·.attrID == zclAttridSwitchAction) else 0) ↔ _
  by_cases hcluster : clusterId = zclClusterGenOnOffSwitchConfig
  · rw [if_pos hcluster, countP_parsed, List.countP_pos_iff, and_iff_right hcluster]
    simp only [decide_eq_true_eq]
  · rw [if_neg hcluster]
    exact iff_of_false (Nat.lt_irrefl 0) fun h => hcluster h.1

theorem of_store {a : SwitchActions} {e : BitVec 8} {r : SentRec} (he : SwitchEndpoint e) (hep : SwitchEndpoint endPoint) :
    (a.store endPoint r).of e = if endPoint = e then r.alone.byte 0 else a.of e := by
  have hne : watermeterEndpoint5 ≠ watermeterEndpoint4 := by decide
  rcases he with rfl | rfl <;> rcases hep with rfl | rfl <;>
    simp [SwitchActions.of, SwitchActions.store, hne, hne.symm]

/-- One record, accepted or not. -/
theorem zclAttrWrite_of {e : BitVec 8} (he : SwitchEndpoint e) (d : WriteDevice) (r : SentRec) :
    (d.zclAttrWrite endPoint clusterId r).switchActions.of e =
      lastFor e (d.switchActions.of e) (SwitchEvent.write endPoint clusterId [r]).accepted := by
  have hmetering : zclClusterGenOnOffSwitchConfig ≠ zclClusterSeMetering := by decide
  rw [SwitchEvent.accepted, zclAttrWrite]
  by_cases hcluster : clusterId = zclClusterGenOnOffSwitchConfig
  · rw [if_pos hcluster]
    subst hcluster
    by_cases hw : Writable endPoint zclClusterGenOnOffSwitchConfig r
    · have hep : SwitchEndpoint endPoint := by
        rw [Writable, if_neg hmetering, if_pos rfl] at hw
        exact hw.1
      rw [if_pos hw, zclSetAttrVal, if_neg hmetering, if_pos rfl, List.filter_cons_of_pos (by simpa using hw),
        List.filter_nil, List.map_singleton, lastFor_single, of_store he hep]
    · rw [if_neg hw, List.filter_cons_of_neg (by simpa using hw)]
      rfl
  · rw [if_neg hcluster, lastFor_nil]
    split
    · rw [zclSetAttrVal, if_neg hcluster]
      split <;> rfl
    · rfl

theorem accepted_cons (endPoint : BitVec 8) (clusterId : BitVec 16) (r : SentRec) (recs : List SentRec) :
    (SwitchEvent.write endPoint clusterId (r :: recs)).accepted =
      (SwitchEvent.write endPoint clusterId [r]).accepted ++ (SwitchEvent.write endPoint clusterId recs).accepted := by
  simp only [SwitchEvent.accepted]
  split
  · rw [← List.map_append, ← List.filter_append, List.singleton_append]
  · rfl

/-- A list of records leaves in each endpoint the last value that it writes there. -/
theorem zclWriteHandler_of {e : BitVec 8} (he : SwitchEndpoint e) (d : WriteDevice) :
    (d.zclWriteHandler endPoint clusterId recs).switchActions.of e =
      lastFor e (d.switchActions.of e) (SwitchEvent.write endPoint clusterId recs).accepted := by
  induction recs generalizing d with
  | nil =>
      rw [SwitchEvent.accepted, List.filter_nil, List.map_nil, ite_self]
      rfl
  | cons r recs ih =>
      rw [accepted_cons, lastFor_append, ← zclAttrWrite_of he]
      exact ih (d.zclAttrWrite endPoint clusterId r)

theorem zclWriteHandler_saved (d : WriteDevice) : (d.zclWriteHandler endPoint clusterId recs).saved = d.saved := by
  have hkeep (d : WriteDevice) (r : SentRec) (_ : ¬ False) :
      (d.zclAttrWrite endPoint clusterId r).saved = d.saved := by
    rw [zclAttrWrite, zclSetAttrVal]
    split_ifs <;> rfl
  exact run_unset hkeep d fun _ _ => id

/-- Only records of the switch actions are accepted. -/
theorem accepted_nil (h : ¬ (clusterId = zclClusterGenOnOffSwitchConfig ∧ ∃ r ∈ recs, r.attrID = zclAttridSwitchAction)) :
    (SwitchEvent.write endPoint clusterId recs).accepted = [] := by
  have hmetering : zclClusterGenOnOffSwitchConfig ≠ zclClusterSeMetering := by decide
  rw [SwitchEvent.accepted]
  split
  · next hcluster =>
      have hnone : recs.filter (fun r => Writable endPoint clusterId r) = [] := by
        refine List.filter_eq_nil_iff.mpr fun r hr hw => h ⟨hcluster, r, hr, ?_⟩
        rw [decide_eq_true_eq, Writable, hcluster, if_neg hmetering, if_pos rfl] at hw
        exact hw.2.1
      rw [hnone, List.map_nil]
  · rfl

/-! ### Writes and reboots -/

/-- The attributes hold what was written last, and so does the NV, unless nothing was ever saved. -/
structure Persists (events : List SwitchEvent) (d : WriteDevice) : Prop where
  attrs : ∀ e, SwitchEndpoint e → d.switchActions.of e = lastWritten e events
  saved : d.saved = some d.switchActions ∨ d.saved = none ∧ d.switchActions = initialSwitchActions

theorem ext_of {a b : SwitchActions} (h : ∀ e, SwitchEndpoint e → a.of e = b.of e) : a = b := by
  have h4 := h watermeterEndpoint4 (Or.inl rfl)
  have h5 := h watermeterEndpoint5 (Or.inr rfl)
  have hne : watermeterEndpoint5 ≠ watermeterEndpoint4 := by decide
  simp only [SwitchActions.of, if_pos, if_neg hne] at h4 h5
  obtain ⟨a4, a5⟩ := a
  obtain ⟨b4, b5⟩ := b
  rw [show a4 = b4 from h4, show a5 = b5 from h5]

theorem Persists.reboot {events : List SwitchEvent} (h : Persists events d) (meter : Meter) :
    (d.reboot meter).switchActions = d.switchActions := by
  rw [WriteDevice.reboot]
  rcases h.saved with hsaved | ⟨hsaved, hinitial⟩
  · rw [hsaved]; rfl
  · rw [hsaved, hinitial]; rfl

/-- The start of the MCU in the application is a reboot for the switch actions. -/
theorem reset_reboots {s : ZclApp} {supply : Supply} {e : AppEvent} (h : s.resets supply e = true) :
    (s.step (supply, .app e)).switchActions = (s.writeDevice.reboot s.meter).switchActions := by
  rw [ZclApp.step, WriteDevice.reboot, ZclApp.writeDevice]
  simp only [h, if_true]
  cases s.saved <;> rfl

theorem persists_fresh (meter : Meter) : Persists [] (fresh meter) where
  attrs _ he := by rcases he with rfl | rfl <;> rfl
  saved := Or.inr ⟨rfl, rfl⟩

theorem persists_step {events : List SwitchEvent} (h : Persists events d) (e : SwitchEvent) :
    Persists (events ++ [e]) (d.switchStep e) := by
  cases e with
  | reboot meter =>
      refine ⟨fun ep hep => ?_, ?_⟩
      · rw [lastWritten_append, SwitchEvent.accepted, lastFor_nil, ← h.attrs ep hep]
        exact congrArg (SwitchActions.of · ep) (h.reboot meter)
      · have hkept := h.saved
        rw [← h.reboot meter] at hkept
        exact hkept
  | write endPoint clusterId recs =>
      obtain ⟨hattrs, hsaved⟩ := deliver_switch d endPoint clusterId recs
      refine ⟨fun ep hep => ?_, ?_⟩
      · rw [lastWritten_append, ← h.attrs ep hep, ← zclWriteHandler_of hep]
        exact congrArg (SwitchActions.of · ep) hattrs
      · rw [switchStep, hattrs, hsaved]
        split
        · exact Or.inl rfl
        · next hnone =>
            have hsame : (d.zclWriteHandler endPoint clusterId recs).switchActions = d.switchActions :=
              ext_of fun ep hep => by rw [zclWriteHandler_of hep, accepted_nil hnone, lastFor_nil]
            rw [zclWriteHandler_saved, hsame]
            exact h.saved

theorem persists_run (meter : Meter) (events : List SwitchEvent) :
    Persists events (run switchStep (fresh meter) events) := by
  induction events using List.reverseRecOn with
  | nil => exact persists_fresh meter
  | append_singleton events e ih =>
      rw [run_append]
      exact persists_step ih e

/-- A write to one endpoint is none to the other. -/
theorem accepted_other {e : BitVec 8} (h : endPoint ≠ e) :
    ∀ w ∈ (SwitchEvent.write endPoint clusterId recs).accepted, w.1 ≠ e := by
  intro w hw
  rw [SwitchEvent.accepted] at hw
  split at hw
  · obtain ⟨r, -, rfl⟩ := List.mem_map.mp hw
    exact h
  · exact absurd hw List.not_mem_nil

/-- After any writes and reboots each endpoint has the last value written to it, and so after the next reboot; a write
to one leaves the other; and however often the NV is saved in a row, it is written at most once. -/
theorem switch_actions_persist (meter : Meter) (events : List SwitchEvent) :
    (∀ e, SwitchEndpoint e → (run switchStep (fresh meter) events).switchActions.of e = lastWritten e events ∧
      ∀ meter', ((run switchStep (fresh meter) events).reboot meter').switchActions.of e = lastWritten e events) ∧
    (∀ e endPoint clusterId recs, SwitchEndpoint e → endPoint ≠ e →
      (run switchStep (fresh meter) (events ++ [.write endPoint clusterId recs])).switchActions.of e =
        (run switchStep (fresh meter) events).switchActions.of e ∧
      lastWritten e (events ++ [.write endPoint clusterId recs]) = lastWritten e events) ∧
    ∀ n, (nvWrites n (run switchStep (fresh meter) events)).length ≤ 1 := by
  have hrun := persists_run meter events
  refine ⟨fun e he => ⟨hrun.attrs e he, fun meter' => ?_⟩, ?_, fun n => length_nvWrites n _⟩
  · rw [hrun.reboot meter', hrun.attrs e he]
  · intro e endPoint clusterId recs he hne
    have hlast : lastWritten e (events ++ [.write endPoint clusterId recs]) = lastWritten e events := by
      rw [lastWritten_append]
      exact lastFor_other _ (accepted_other hne)
    exact ⟨by rw [(persists_run meter _).attrs e he, hrun.attrs e he, hlast], hlast⟩

end WriteDevice

end Watermeter
