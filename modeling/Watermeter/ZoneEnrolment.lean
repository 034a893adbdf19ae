import Watermeter.Application
import Watermeter.LeakAlarm

/-! The enrolment of the IAS zone: the CIE writes its address, answers with an enrol response, and is told of a leak.
The handler of the response looks at the zone id and not at the response code. -/

namespace Watermeter

open Transition

def zoneEnrollSucc : BitVec 8 := 0x00#8

/-- `zoneEnrollRsp_t`. -/
structure ZoneEnrollRsp where
  code : BitVec 8
  zoneId : BitVec 8
  deriving DecidableEq, Repr

/-- The commands of the IAS zone cluster that the application callback tells apart. -/
inductive IasZoneCmd
  | zoneEnrollRsp (rsp : ZoneEnrollRsp)
  | initNormalOperationMode
  | initTestMode (testModeDuration currZoneSensLevel : BitVec 8)
  | other (cmdId : BitVec 8)
  deriving DecidableEq, Repr

/-- The fields of `zclIncomingAddrInfo_t` that the callback reads. -/
structure IasZoneAddrInfo where
  dstEp : BitVec 8
  clientServerDir : Bool
  deriving DecidableEq, Repr

/-- `zcl_setAttrVal` of an attribute of the IAS zone, which only endpoint 4 has. -/
def setIasZoneAttr (endpoint : BitVec 8) (set : LeakAttrs → LeakAttrs) (attrs : LeakAttrs) : LeakAttrs :=
  if endpoint = watermeterEndpoint4 then set attrs else attrs

/-- `leak_zclIasZoneEnrollRspCmdHandler`. -/
def leakZclIasZoneEnrollRspCmdHandler (rsp : ZoneEnrollRsp) (endpoint : BitVec 8) (attrs : LeakAttrs) : LeakAttrs :=
  if rsp.zoneId ≠ zclZoneIdInvalid then
    let attrs := setIasZoneAttr endpoint (fun attrs => { attrs with zoneId := rsp.zoneId }) attrs
    setIasZoneAttr endpoint (fun attrs => { attrs with zoneState := zoneStateEnrolled }) attrs
  else attrs

/-- `leak_iasZoneCb`: the status it returns and the attributes. The other two handlers do nothing. -/
def leakIasZoneCb (addrInfo : IasZoneAddrInfo) (cmd : IasZoneCmd) (attrs : LeakAttrs) : BitVec 8 × LeakAttrs :=
  if addrInfo.dstEp = watermeterEndpoint4 ∨ addrInfo.dstEp = watermeterEndpoint5 then
    if addrInfo.clientServerDir then
      match cmd with
      | .zoneEnrollRsp rsp => (zclStaSuccess, leakZclIasZoneEnrollRspCmdHandler rsp addrInfo.dstEp attrs)
      | .initNormalOperationMode => (zclStaSuccess, attrs)
      | .initTestMode _ _ => (zclStaSuccess, attrs)
      | .other _ => (zclStaSuccess, attrs)
    else (zclStaSuccess, attrs)
  else (zclStaSuccess, attrs)

/-- What reaches the zone of a joined device. -/
inductive ZoneEvent
  /-- The CIE writes its address to endpoint 4. -/
  | writeCieAddr (addr : BitVec 64)
  /-- A command of the IAS zone cluster. -/
  | iasZone (addrInfo : IasZoneAddrInfo) (cmd : IasZoneCmd)
  /-- A pass of `waterleak_handler`. -/
  | pass (wleak1Gpio wleak2Gpio : Bool)
  deriving DecidableEq, Repr

def zoneStep (s : Leak) : ZoneEvent → Leak
  | .writeCieAddr addr =>
      { s with attrs := setIasZoneAttr watermeterEndpoint4 (fun attrs => { attrs with iasCieAddr := addr }) s.attrs }
  | .iasZone addrInfo cmd => { s with attrs := (leakIasZoneCb addrInfo cmd s.attrs).2 }
  | .pass wleak1Gpio wleak2Gpio => (waterleakHandler ⟨wleak1Gpio, wleak2Gpio, true⟩ s).1

/-- What the module asks of the stack in a step. -/
def zoneCalls (s : Leak) : ZoneEvent → List LeakCall
  | .pass wleak1Gpio wleak2Gpio => (waterleakHandler ⟨wleak1Gpio, wleak2Gpio, true⟩ s).2
  | _ => []

/-! ### The enrolment as the CIE sees it -/

/-- The address the CIE wrote last, and the zone id of the last enrolment it granted. -/
structure Enrolment where
  cieAddr : BitVec 64
  granted : Option (BitVec 8)
  deriving DecidableEq, Repr

namespace Enrolment

def start : Enrolment := ⟨0#64, none⟩

def step (z : Enrolment) : ZoneEvent → Enrolment
  | .writeCieAddr addr => { z with cieAddr := addr }
  | .iasZone addrInfo (.zoneEnrollRsp rsp) =>
      if addrInfo = ⟨watermeterEndpoint4, true⟩ ∧ rsp.code = zoneEnrollSucc ∧ rsp.zoneId ≠ zclZoneIdInvalid then
        { z with granted := some rsp.zoneId }
      else z
  | _ => z

/-- Whom a notification goes to: the CIE once an enrolment was granted, else the coordinator. -/
def epInfo (z : Enrolment) : EpInfo :=
  { dstEp := watermeterEndpoint4
    profileId := haProfileId
    dstAddr := if z.granted.isSome then .long z.cieAddr else .short 0x0000#16 }

def zoneId (z : Enrolment) : BitVec 8 := z.granted.getD zclZoneIdInvalid

end Enrolment

/-- The device and, beside it, the enrolment (a history variable). -/
structure ZoneHistory where
  leak : Leak
  enrolment : Enrolment
  deriving DecidableEq, Repr

namespace ZoneHistory

def start (ep4SwitchActions ep5SwitchActions : BitVec 8) : ZoneHistory :=
  ⟨leakStart ep4SwitchActions ep5SwitchActions, .start⟩

def step (s : ZoneHistory) (e : ZoneEvent) : ZoneHistory := ⟨zoneStep s.leak e, s.enrolment.step e⟩

/-- A response with a failure code, to either endpoint. -/
def Refuses (e : ZoneEvent) : Prop :=
  ∃ addrInfo rsp, e = .iasZone addrInfo (.zoneEnrollRsp rsp) ∧ rsp.code ≠ zoneEnrollSucc

/-- Before the event notifications are addressed by the enrolment, those of the event are sent so, and a refusal
changes nothing. -/
structure FollowsEnrolment (s : ZoneHistory) (e : ZoneEvent) : Prop where
  address : fillIASAddress s.leak.attrs = s.enrolment.epInfo
  notified : ∀ endpoint dst noti, .statusChangeNotification endpoint dst noti ∈ zoneCalls s.leak e →
    dst = s.enrolment.epInfo ∧ noti.zoneId = s.enrolment.zoneId
  refused : Refuses e → (zoneStep s.leak e).attrs.zoneState = s.leak.attrs.zoneState ∧
    (zoneStep s.leak e).attrs.zoneId = s.leak.attrs.zoneId ∧
    fillIASAddress (zoneStep s.leak e).attrs = fillIASAddress s.leak.attrs

/-- No refusal to endpoint 4 carries a zone id, unless the zone is enrolled with that very id. -/
def NoFalseGrant (s : ZoneHistory) (e : ZoneEvent) : Prop :=
  ∀ rsp, e = .iasZone ⟨watermeterEndpoint4, true⟩ (.zoneEnrollRsp rsp) → rsp.code ≠ zoneEnrollSucc →
    rsp.zoneId ≠ zclZoneIdInvalid →
      s.leak.attrs.zoneState = zoneStateEnrolled ∧ s.leak.attrs.zoneId = rsp.zoneId

/-- The attributes are those of the enrolment. -/
structure Mirrors (s : ZoneHistory) : Prop where
  zoneState : s.leak.attrs.zoneState = if s.enrolment.granted.isSome then zoneStateEnrolled else 0#8
  cieAddr : s.leak.attrs.iasCieAddr = s.enrolment.cieAddr
  zoneId : s.leak.attrs.zoneId = s.enrolment.zoneId

end ZoneHistory

/-! ### The detectors leave the zone alone -/

/-- The attributes that say whom to notify, and as which zone. -/
def SameZone (attrs attrs' : LeakAttrs) : Prop :=
  attrs'.zoneState = attrs.zoneState ∧ attrs'.iasCieAddr = attrs.iasCieAddr ∧ attrs'.zoneId = attrs.zoneId

/-- Every notification among the calls goes where the attributes say. -/
def Notified (attrs : LeakAttrs) (calls : List LeakCall) : Prop :=
  ∀ endpoint dst noti, LeakCall.statusChangeNotification endpoint dst noti ∈ calls →
    dst = fillIASAddress attrs ∧ noti.zoneId = attrs.zoneId

variable {attrs attrs' : LeakAttrs} {calls calls' : List LeakCall}

theorem SameZone.refl (attrs : LeakAttrs) : SameZone attrs attrs := ⟨rfl, rfl, rfl⟩

theorem SameZone.fillIASAddress (h : SameZone attrs attrs') :
    Watermeter.fillIASAddress attrs' = Watermeter.fillIASAddress attrs := by
  rw [Watermeter.fillIASAddress, h.1, h.2.1, Watermeter.fillIASAddress]

theorem Notified.append (h : Notified attrs calls) (h' : Notified attrs calls') : Notified attrs (calls ++ calls') := by
  intro endpoint dst noti hmem
  rcases List.mem_append.mp hmem with hmem | hmem
  · exact h endpoint dst noti hmem
  · exact h' endpoint dst noti hmem

theorem notified_nil (attrs : LeakAttrs) : Notified attrs [] := fun _ _ _ hmem => absurd hmem List.not_mem_nil

theorem notified_leakCommand (attrs : LeakAttrs) (endpoint switchActions : BitVec 8) :
    Notified attrs (leakCommand endpoint switchActions) := by
  intro ep dst noti hmem
  unfold leakCommand cmdOnOff at hmem
  split_ifs at hmem <;> simp at hmem

theorem changeStatus_zone (attrs : LeakAttrs) (zoneStatus : BitVec 16) :
    SameZone attrs (changeStatus attrs zoneStatus).1 ∧ Notified attrs (changeStatus attrs zoneStatus).2 := by
  refine ⟨⟨rfl, rfl, rfl⟩, fun endpoint dst noti hmem => ?_⟩
  simp only [changeStatus, List.mem_cons, reduceCtorEq, false_or, List.not_mem_nil, or_false,
    LeakCall.statusChangeNotification.injEq] at hmem
  obtain ⟨-, rfl, rfl⟩ := hmem
  exact ⟨rfl, rfl⟩

theorem leakDetected_zone (joined : Bool) (attrs : LeakAttrs) :
    SameZone attrs (leakDetected joined attrs).1 ∧ Notified attrs (leakDetected joined attrs).2 := by
  cases joined with
  | false => exact ⟨SameZone.refl attrs, notified_nil attrs⟩
  | true =>
      obtain ⟨hsame, hcalls⟩ := changeStatus_zone attrs (attrs.zoneStatus ||| zoneStatusBitAlarm1)
      exact ⟨hsame, ((notified_leakCommand attrs _ _).append (notified_leakCommand attrs _ _)).append hcalls⟩

theorem leakCleared_zone (joined : Bool) (attrs : LeakAttrs) :
    SameZone attrs (leakCleared joined attrs).1 ∧ Notified attrs (leakCleared joined attrs).2 := by
  cases joined with
  | false => exact ⟨SameZone.refl attrs, notified_nil attrs⟩
  | true => exact changeStatus_zone attrs _

theorem leakChannel_zone (gpio joined : Bool) (debounce : BitVec 8) (attrs : LeakAttrs) :
    SameZone attrs (leakChannel gpio joined debounce attrs).2.1 ∧
      Notified attrs (leakChannel gpio joined debounce attrs).2.2 := by
  have hidle : SameZone attrs attrs ∧ Notified attrs [] := ⟨SameZone.refl attrs, notified_nil attrs⟩
  unfold leakChannel
  split_ifs
  · exact leakDetected_zone joined attrs
  · exact hidle
  · exact hidle
  · exact leakCleared_zone joined attrs
  · exact hidle
  · exact hidle

/-- A pass notifies by the attributes it finds, and leaves them. -/
theorem waterleakHandler_zone (input : LeakInput) (s : Leak) :
    SameZone s.attrs (waterleakHandler input s).1.attrs ∧ Notified s.attrs (waterleakHandler input s).2 := by
  obtain ⟨hsame, hcalls⟩ := leakChannel_zone input.wleak1Gpio input.joined s.waterleakDebounce1 s.attrs
  obtain ⟨hsame', hcalls'⟩ := leakChannel_zone input.wleak2Gpio input.joined s.waterleakDebounce2
    (leakChannel input.wleak1Gpio input.joined s.waterleakDebounce1 s.attrs).2.1
  refine ⟨⟨hsame'.1.trans hsame.1, hsame'.2.1.trans hsame.2.1, hsame'.2.2.trans hsame.2.2⟩, hcalls.append ?_⟩
  intro endpoint dst noti hmem
  obtain ⟨hdst, hid⟩ := hcalls' endpoint dst noti hmem
  exact ⟨hdst.trans hsame.fillIASAddress, hid.trans hsame.2.2⟩

/-! ### The response -/

/-- A response with a valid zone id to endpoint 4 is taken as a grant, whatever its code. -/
theorem leakIasZoneCb_enrollRsp (rsp : ZoneEnrollRsp) (addrInfo : IasZoneAddrInfo) (attrs : LeakAttrs) :
    (leakIasZoneCb addrInfo (.zoneEnrollRsp rsp) attrs).2 =
      if addrInfo = ⟨watermeterEndpoint4, true⟩ ∧ rsp.zoneId ≠ zclZoneIdInvalid then
        { attrs with zoneId := rsp.zoneId, zoneState := zoneStateEnrolled }
      else attrs := by
  obtain ⟨dstEp, dir⟩ := addrInfo
  unfold leakIasZoneCb leakZclIasZoneEnrollRspCmdHandler setIasZoneAttr
  simp only [IasZoneAddrInfo.mk.injEq]
  split_ifs <;> simp_all

theorem leakIasZoneCb_other {cmd : IasZoneCmd} (hcmd : ∀ rsp, cmd ≠ .zoneEnrollRsp rsp) (addrInfo : IasZoneAddrInfo)
    (attrs : LeakAttrs) : (leakIasZoneCb addrInfo cmd attrs).2 = attrs := by
  unfold leakIasZoneCb
  cases cmd with
  | zoneEnrollRsp rsp => exact absurd rfl (hcmd rsp)
  | initNormalOperationMode => split_ifs <;> rfl
  | initTestMode _ _ => split_ifs <;> rfl
  | other _ => split_ifs <;> rfl

namespace ZoneHistory

variable {s : ZoneHistory} {e : ZoneEvent}

theorem Mirrors.address (h : s.Mirrors) : fillIASAddress s.leak.attrs = s.enrolment.epInfo := by
  rw [fillIASAddress, h.zoneState, h.cieAddr, Enrolment.epInfo]
  cases s.enrolment.granted with
  | none => rfl
  | some zoneId => rw [Option.isSome_some, if_pos rfl, if_pos (by decide), if_pos rfl]

theorem mirrors_start (ep4SwitchActions ep5SwitchActions : BitVec 8) :
    (start ep4SwitchActions ep5SwitchActions).Mirrors := ⟨rfl, rfl, rfl⟩

/-- A command that is no response changes nothing. -/
theorem step_other {cmd : IasZoneCmd} (hcmd : ∀ rsp, cmd ≠ .zoneEnrollRsp rsp) (addrInfo : IasZoneAddrInfo) :
    s.step (.iasZone addrInfo cmd) = s := by
  rw [step, zoneStep, leakIasZoneCb_other hcmd]
  cases cmd with
  | zoneEnrollRsp rsp => exact absurd rfl (hcmd rsp)
  | initNormalOperationMode => rfl
  | initTestMode _ _ => rfl
  | other _ => rfl

/-- Neither does a response to another endpoint, or one without a zone id. -/
theorem step_invalid {addrInfo : IasZoneAddrInfo} {rsp : ZoneEnrollRsp}
    (hvalid : ¬ (addrInfo = ⟨watermeterEndpoint4, true⟩ ∧ rsp.zoneId ≠ zclZoneIdInvalid)) :
    s.step (.iasZone addrInfo (.zoneEnrollRsp rsp)) = s := by
  have hspec : ¬ (addrInfo = ⟨watermeterEndpoint4, true⟩ ∧ rsp.code = zoneEnrollSucc ∧
      rsp.zoneId ≠ zclZoneIdInvalid) := fun hall => hvalid ⟨hall.1, hall.2.2⟩
  rw [step, zoneStep, leakIasZoneCb_enrollRsp, if_neg hvalid, Enrolment.step, if_neg hspec]

/-- A refusal that names the zone the device is enrolled with changes nothing either. -/
theorem step_refused {rsp : ZoneEnrollRsp} (hid : rsp.zoneId ≠ zclZoneIdInvalid) (hcode : rsp.code ≠ zoneEnrollSucc)
    (hstate : s.leak.attrs.zoneState = zoneStateEnrolled) (hsameId : s.leak.attrs.zoneId = rsp.zoneId) :
    s.step (.iasZone ⟨watermeterEndpoint4, true⟩ (.zoneEnrollRsp rsp)) = s := by
  rw [step, zoneStep, leakIasZoneCb_enrollRsp, if_pos ⟨rfl, hid⟩, ← hstate, ← hsameId, Enrolment.step,
    if_neg fun hall => hcode hall.2.1]

theorem mirrors_step (h : s.Mirrors) (hgrant : s.NoFalseGrant e) : (s.step e).Mirrors := by
  cases e with
  | writeCieAddr addr => exact ⟨h.zoneState, rfl, h.zoneId⟩
  | pass wleak1Gpio wleak2Gpio =>
      obtain ⟨⟨hstate, haddr, hid⟩, -⟩ := waterleakHandler_zone ⟨wleak1Gpio, wleak2Gpio, true⟩ s.leak
      exact ⟨hstate.trans h.zoneState, haddr.trans h.cieAddr, hid.trans h.zoneId⟩
  | iasZone addrInfo cmd =>
      by_cases hcmd : ∀ rsp, cmd ≠ .zoneEnrollRsp rsp
      · rwa [step_other hcmd]
      obtain ⟨rsp, hrsp⟩ := not_forall.mp hcmd
      obtain rfl := not_not.mp hrsp
      by_cases hvalid : addrInfo = ⟨watermeterEndpoint4, true⟩ ∧ rsp.zoneId ≠ zclZoneIdInvalid
      · obtain ⟨rfl, hid⟩ := hvalid
        by_cases hcode : rsp.code = zoneEnrollSucc
        · constructor
          · simp [step, zoneStep, leakIasZoneCb_enrollRsp, Enrolment.step, hcode, hid]
          · simp [step, zoneStep, leakIasZoneCb_enrollRsp, Enrolment.step, hcode, hid, h.cieAddr]
          · simp [step, zoneStep, leakIasZoneCb_enrollRsp, Enrolment.step, Enrolment.zoneId, hcode, hid]
        · obtain ⟨hstate, hsameId⟩ := hgrant rsp rfl hcode hid
          rwa [step_refused hid hcode hstate hsameId]
      · rwa [step_invalid hvalid]

/-- Where the device mirrors the enrolment, an event keeps to it exactly when it is no false grant. -/
theorem followsEnrolment_iff (h : s.Mirrors) : s.FollowsEnrolment e ↔ s.NoFalseGrant e := by
  constructor
  · rintro hfollows rsp rfl hcode hid
    obtain ⟨hstate, hkept, -⟩ := hfollows.refused ⟨_, rsp, rfl, hcode⟩
    rw [zoneStep, leakIasZoneCb_enrollRsp, if_pos ⟨rfl, hid⟩] at hstate hkept
    exact ⟨hstate.symm, hkept.symm⟩
  · intro hgrant
    refine ⟨h.address, fun endpoint dst noti hmem => ?_, ?_⟩
    · cases e with
      | writeCieAddr addr => exact absurd hmem List.not_mem_nil
      | iasZone addrInfo cmd => exact absurd hmem List.not_mem_nil
      | pass wleak1Gpio wleak2Gpio =>
          obtain ⟨-, hcalls⟩ := waterleakHandler_zone ⟨wleak1Gpio, wleak2Gpio, true⟩ s.leak
          obtain ⟨hdst, hid⟩ := hcalls endpoint dst noti hmem
          exact ⟨hdst.trans h.address, hid.trans h.zoneId⟩
    · rintro ⟨addrInfo, rsp, rfl, hcode⟩
      suffices hkeep : zoneStep s.leak (.iasZone addrInfo (.zoneEnrollRsp rsp)) = s.leak by
        rw [hkeep]; exact ⟨rfl, rfl, rfl⟩
      rw [zoneStep, leakIasZoneCb_enrollRsp]
      split
      · next hvalid =>
          obtain ⟨rfl, hid⟩ := hvalid
          obtain ⟨hstate, hsameId⟩ := hgrant rsp rfl hcode hid
          rw [← hstate, ← hsameId]
      · rfl

/-- The notifications of a run follow the enrolment exactly when no refusal in it is a false grant. -/
theorem enrolment_followed_iff (ep4SwitchActions ep5SwitchActions : BitVec 8) (events : List ZoneEvent) :
    Along step FollowsEnrolment (start ep4SwitchActions ep5SwitchActions) events ↔
      Along step NoFalseGrant (start ep4SwitchActions ep5SwitchActions) events :=
  along_iff (fun _ _ h hfollows => mirrors_step h ((followsEnrolment_iff h).mp hfollows))
    (fun _ _ h => followsEnrolment_iff h) (mirrors_start ep4SwitchActions ep5SwitchActions)

/-- A response "not supported" that carries the zone id 0. -/
def notSupported : ZoneEvent := .iasZone ⟨watermeterEndpoint4, true⟩ (.zoneEnrollRsp ⟨0x01#8, 0x00#8⟩)

/-- After it the device tells an address that nobody has given of its leaks. -/
theorem refusal_enrols : ¬ ∀ (ep4SwitchActions ep5SwitchActions : BitVec 8) (events : List ZoneEvent),
    Along step FollowsEnrolment (start ep4SwitchActions ep5SwitchActions) events := by
  intro h
  obtain ⟨-, hafter, -⟩ := h 0#8 0#8 [notSupported, .pass true true]
  exact absurd hafter.address (by decide)

end ZoneHistory

end Watermeter
