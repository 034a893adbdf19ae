import Watermeter.ReportSpacing

/-! The report that the maximum timer owes the network. The callback leaves it out when the system timer, which turns
every 268 seconds, is read as if little time had passed since the stamp; its own reports leave no stamp. -/

namespace Watermeter

open NorFlash Transition

namespace Reporting

/-- The timer list runs the maximum callback of the slot. -/
def fires (i : Slot) (s : Reporting) : ReportEvent → Bool
  | .maxTimer j => decide (j = i) && (s.appReporting i).timerReportMaxEvt.any fun evt => decide (evt.Due s.now)
  | _ => false

def minTicks (s : Reporting) (i : Slot) : Nat := (s.reportCfgInfo i).minInterval.toNat * ticksPerSecond

/-- When the maximum callback returns, the newest report of the entry is at most the minimum interval old. -/
def HeartbeatSeen (i : Slot) (s : Reporting) (e : ReportEvent) : Prop :=
  fires i s e = true → ∃ t ∈ (s.step e).times i, s.now ≤ t + s.minTicks i

/-- The attribute is there, and the last stamp is a report at most the minimum interval old or the ticks since then,
those of power-up for no stamp, are more than the minimum interval after both have lost their whole turns. -/
def HeartbeatDue (i : Slot) (s : Reporting) (e : ReportEvent) : Prop :=
  fires i s e = true → (s.view i).attr.isSome ∧
    ((∃ p ∈ (s.appReporting i).postedAt, s.now ≤ p + s.minTicks i) ∨
      s.minTicks i % 2 ^ 32 < (s.now - (s.appReporting i).postedAt.getD 0) % 2 ^ 32)

instance (i : Slot) (s : Reporting) (e : ReportEvent) : Decidable (HeartbeatSeen i s e) :=
  inferInstanceAs (Decidable (fires i s e = true → ∃ t ∈ (s.step e).times i, s.now ≤ t + s.minTicks i))

instance (i : Slot) (s : Reporting) (e : ReportEvent) : Decidable (HeartbeatDue i s e) :=
  inferInstanceAs (Decidable (fires i s e = true → (s.view i).attr.isSome ∧
    ((∃ p ∈ (s.appReporting i).postedAt, s.now ≤ p + s.minTicks i) ∨
      s.minTicks i % 2 ^ 32 < (s.now - (s.appReporting i).postedAt.getD 0) % 2 ^ 32)))

variable {i : Slot} {minInterval maxInterval : BitVec 16} {s : Reporting}

theorem fires_cases {e : ReportEvent} (h : fires i s e = true) :
    e = .maxTimer i ∧ ∃ evt, (s.view i).app.timerReportMaxEvt = some evt ∧ evt.Due s.now := by
  cases e with
  | maxTimer j =>
    simp only [fires, Bool.and_eq_true, decide_eq_true_eq, Option.any_eq_true] at h
    obtain ⟨rfl, evt, hevt, hdue⟩ := h
    exact ⟨rfl, evt, hevt, hdue⟩
  | _ => cases h

/-- The stamp is no later than now. -/
theorem Tracks.stamp_le (h : s.Tracks i minInterval maxInterval) : (s.appReporting i).postedAt.getD 0 ≤ s.now := by
  cases hposted : (s.appReporting i).postedAt with
  | none => exact Nat.zero_le _
  | some p => exact h.sound.past p (h.sound.posted p hposted)

/-- What the callback's comparison sees. -/
theorem Tracks.exceeds_iff (h : s.Tracks i minInterval maxInterval) :
    TickClock.Exceeds s.now (s.view i).app.timePosted
        (BitVec.ofNat 32 ((s.view i).entry.minInterval.toNat * ticksPerSecond)) ↔
      s.minTicks i % 2 ^ 32 < (s.now - (s.appReporting i).postedAt.getD 0) % 2 ^ 32 := by
  rw [h.sound.stamp]
  exact TickClock.exceeds_iff h.stamp_le

/-- When the maximum timer is due, a report of the last minimum interval is no later than the stamp. -/
theorem Tracks.recent_posted (h : s.Tracks i minInterval maxInterval) {evt : EvTimer}
    (hevt : (s.view i).app.timerReportMaxEvt = some evt) (hdue : evt.Due s.now) {t : Nat} (ht : t ∈ s.times i)
    (hrecent : s.now ≤ t + s.minTicks i) : ∃ p ∈ (s.appReporting i).postedAt, s.now ≤ p + s.minTicks i := by
  obtain ⟨hlt, hperiod, hcovered⟩ := h.sound.maxTimer evt hevt
  rcases hcovered t ht with hsince | ⟨p, hp, htp⟩
  · have hlate := hdue.seconds hperiod
    have hminInterval : (s.reportCfgInfo i).minInterval = minInterval := h.sound.minInterval_eq
    rw [minTicks, hminInterval] at hrecent
    have hinterval : minInterval.toNat * ticksPerSecond < maxInterval.toNat * ticksPerSecond :=
      Nat.mul_lt_mul_of_pos_right (BitVec.lt_def.mp hlt) (by decide)
    omega
  · exact ⟨p, hp, hrecent.trans (Nat.add_le_add_right htp _)⟩

theorem Tracks.heartbeat_iff (h : s.Tracks i minInterval maxInterval) (e : ReportEvent) :
    HeartbeatSeen i s e ↔ HeartbeatDue i s e := by
  apply forall_congr'
  intro hfires
  obtain ⟨rfl, evt, hevt, hdue⟩ := fires_cases hfires
  have hview := view_maxTimer hevt hdue (h.pEntry_of_max hevt) h.sound.bound
  change (∃ t ∈ (s.maxTimer i).times i, _) ↔ _
  by_cases hexceeds : TickClock.Exceeds s.now (s.view i).app.timePosted
      (BitVec.ofNat 32 ((s.view i).entry.minInterval.toNat * ticksPerSecond))
  · rw [if_pos hexceeds] at hview
    rcases hview with ⟨hnone, hview⟩ | ⟨hattr, prevData, hview⟩
    · have htimes : (s.maxTimer i).times i = s.times i := congrArg SlotView.times hview
      have hempty : s.times i = [] := by
        by_contra hne
        have hattr := h.sound.registered hne
        rw [hnone] at hattr
        cases hattr
      simp [htimes, hempty, hnone]
    · have htimes : (s.maxTimer i).times i = s.now :: s.times i := congrArg SlotView.times hview
      rw [htimes]
      exact ⟨fun _ => ⟨hattr, .inr (h.exceeds_iff.mp hexceeds)⟩, fun _ => ⟨s.now, List.mem_cons_self, Nat.le_add_right ..⟩⟩
  · rw [if_neg hexceeds] at hview
    have htimes : (s.maxTimer i).times i = s.times i := congrArg SlotView.times hview
    rw [htimes]
    constructor
    · rintro ⟨t, ht, hrecent⟩
      exact ⟨h.sound.registered (List.ne_nil_of_mem ht), .inl (h.recent_posted hevt hdue ht hrecent)⟩
    · rintro ⟨-, ⟨p, hp, hrecent⟩ | hspan⟩
      · exact ⟨p, h.sound.posted p hp, hrecent⟩
      · exact absurd (h.exceeds_iff.mpr hspan) hexceeds

end Reporting

/-- In every run after `app_reporting_init`, no firing of the maximum timer leaves the network without a recent report
exactly when every firing meets the condition. -/
theorem heartbeat_kept_iff {s : Reporting} {i : Slot} {events : List ReportEvent} (hsent : s.sent = [])
    (hbound : s.bindingTbl (s.reportCfgInfo i).clusterID (s.reportCfgInfo i).endPoint = true)
    (hlt : (s.reportCfgInfo i).minInterval < (s.reportCfgInfo i).maxInterval)
    (hkeeps : Along Reporting.step (Reporting.Keeps i) s.appReportingInit events) :
    Along Reporting.step (Reporting.HeartbeatSeen i) s.appReportingInit events ↔
      Along Reporting.step (Reporting.HeartbeatDue i) s.appReportingInit events := by
  have hmax : (s.reportCfgInfo i).maxInterval ≠ 0 := by bv_omega
  have htracks := Reporting.tracks_appReportingInit hsent hbound
  constructor
  · intro hseen
    exact (hkeeps.and hseen).promote (fun s e h hstep => h.step hmax hstep.1)
      (fun s e h hstep => (h.heartbeat_iff e).mp hstep.2) htracks
  · intro hdue
    exact (hkeeps.and hdue).promote (fun s e h hstep => h.step hmax hstep.1)
      (fun s e h hstep => (h.heartbeat_iff e).mpr hstep.2) htracks

/-! The reports of the battery as they are configured at first, on a device whose battery does not change. -/

def ReportEvent.isCfgReport : ReportEvent → Bool
  | .cfgReport .. => true
  | _ => false

theorem along_keeps {i : Slot} {s : Reporting} {events : List ReportEvent} (h : ∀ e ∈ events, e.isCfgReport = false) :
    Along Reporting.step (Reporting.Keeps i) s events := by
  apply (along_of_forall h).mono
  intro s e he
  cases e with
  | cfgReport => cases he
  | _ => trivial

def quietDevice : Reporting :=
  { oneEntryDevice 300#16 3600#16 with attrTable := fun _ _ _ => some ⟨zclDataTypeBoolean, fun _ => 0#8⟩ }

/-- The minimum timer is served every five minutes, the maximum timer at the end, and then the handler runs. -/
def quietHour : List ReportEvent :=
  (List.replicate 12 [.elapse (300 * ticksPerSecond), .minTimer 0]).flatten ++ [.maxTimer 0, .appReportHandler]

def quietHours (hours : Nat) : List ReportEvent := .appReportHandler :: (List.replicate hours quietHour).flatten

theorem heartbeat_four_hours :
    Along Reporting.step (Reporting.HeartbeatSeen 0) quietDevice.appReportingInit (quietHours 4) :=
  (heartbeat_kept_iff rfl rfl (by decide) (along_keeps (by decide +kernel))).mpr (by decide +kernel)

/-- After five hours the ticks since power-up have lost 67 turns and are fewer than those of 300 seconds, less one turn. -/
theorem heartbeat_skipped : ¬ ∀ (s : Reporting) (i : Slot) (events : List ReportEvent),
    s.sent = [] → s.joined = true → (s.reportCfgInfo i).used = true →
    (s.reportCfgInfo i).minInterval < (s.reportCfgInfo i).maxInterval → 0 < (s.reportCfgInfo i).maxInterval →
    (s.reportCfgInfo i).maxInterval < 0xFFFF#16 →
    s.bindingTbl (s.reportCfgInfo i).clusterID (s.reportCfgInfo i).endPoint = true →
    Along Reporting.step (Reporting.Keeps i) s.appReportingInit events →
    Along Reporting.step (Reporting.HeartbeatSeen i) s.appReportingInit events := by
  intro hkept
  have hseen := hkept quietDevice 0 (quietHours 5) rfl rfl rfl (by decide) (by decide) (by decide) rfl
    (along_keeps (by decide +kernel))
  revert hseen
  decide +kernel

end Watermeter
