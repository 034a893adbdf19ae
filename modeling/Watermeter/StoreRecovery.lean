import Watermeter.StoreDevice
import Watermeter.Transition
import Mathlib.Data.BitVec

/-! Recovery after a power cycle. From the default configuration, `n` updates leave the pointer on page
`n % 832` with the records of one lap before it and those of the lap before behind it. The scan then finds
the newest record on every page but the last. -/

namespace Watermeter

open NorFlash RingLog Transition

/-- The device after `clear_user_data` and `init_default_config`, on any flash. -/
def freshDevice (supply : Supply) (v : Nvm) : Device :=
  Device.reinit supply ⟨getUserDataAddr v.flash Ram.zero, v⟩

def newestTotals (updates : List Totals) : Totals := updates.getLastD defaultTotals

/-- A power cycle restores the totals `t` and the number `n`, and the pointer is on a page that holds them. -/
def RestoredBy (supply : Supply) (d : Device) (t : Totals) (n : Nat) : Prop :=
  (d.reboot supply).ram.watermeterConfig.totals = t ∧
    (d.reboot supply).ram.watermeterConfig.top = .ofNat 32 n ∧
    ∃ c, recordAt (d.reboot supply).nvm.flash (d.reboot supply).ram.watermeterConfig.flashAddrStart.toNat = some c ∧
      c.totals = t ∧ c.top = .ofNat 32 n

variable {b : Bank} {n : Nat} {t : Totals} {v : Nvm} {d : Device} {supply : Supply}

/-- `n` updates after the default configuration, the last of them with totals `t`. -/
structure Lapped (b : Bank) (n : Nat) (t : Totals) (d : Device) : Prop where
  mode : RingMode b (n % 832) d
  tail : TailErased b (n % 832) d.nvm.flash
  newest : ∃ c, Stored b (n % 832) c d ∧ Lap 832 Config.top (ringLog d.nvm.flash b) (n % 832) c ∧
    c.totals = t ∧ c.top = .ofNat 32 n

theorem lapped_fresh (hboot : mcuBootAddrGet v.flash = b.base) (hs : Powered supply) :
    Lapped b 0 defaultTotals (freshDevice supply v) := by
  have hbounds := getUserDataAddr_bounds hboot Ram.zero
  obtain ⟨hmode, hstored⟩ := reinit_device hboot hbounds hs
  unfold freshDevice
  rw [reinit_eq hbounds hs] at hmode hstored ⊢
  refine ⟨hmode, tailErased_opened rfl _ _, firstRecord b, hstored, ?_, rfl, rfl⟩
  intro j hj hjN s hlog
  rw [ringLog_writeRecord_clear hj hjN] at hlog
  cases hlog

/-- One more update. -/
theorem Lapped.update (h : Lapped b n t d) (hs : Powered supply) (t' : Totals) :
    Lapped b (n + 1) t' (d.update supply t') := by
  obtain ⟨c, hstored, hlap, -, htop⟩ := h.newest
  have hmode := h.mode.setTotals t'
  have hst := hstored.setTotals t'
  have hroom : Room b (n % 832) (d.setTotals t') := h.tail.fits _
  have hseq : (nextConfig (d.setTotals t').ram).top = c.top + 1 := by rw [nextConfig_top, hst.number]
  have hsucc : succSlot 832 (n % 832) = (n + 1) % 832 := succSlot_mod (by omega) n
  have hput := hmode.put hs hroom
  have hmode' := hmode.save hs
  have hst' := hst.save hmode hs hroom
  have hlap' := hput.lap hst.chain hlap hseq
  have htail : TailErased b (succSlot 832 (n % 832)) ((d.setTotals t').writeConfig supply).nvm.flash := by
    rw [hmode.writeConfig_eq hs]
    exact h.tail.writeRecord _
  rw [hsucc] at hmode' hst' hlap' htail
  refine ⟨hmode', htail, _, hst', hlap', rfl, ?_⟩
  rw [hseq, htop]
  exact (BitVec.ofNat_add n 1).symm

theorem lapped_updates (hs : Powered supply) (updates : List Totals) (h : Lapped b n t d) :
    Lapped b (n + updates.length) (updates.getLastD t) (run (Device.update supply) d updates) := by
  induction updates generalizing n t d with
  | nil => exact h
  | cons u us ih =>
      rw [run_cons, List.length_cons, List.getLastD_cons, show n + (us.length + 1) = n + 1 + us.length by omega]
      exact ih (h.update hs u)

/-- Off the last page a power cycle finds the newest record, and the device goes on from there. -/
theorem Lapped.reboot (supply : Supply) (h : Lapped b n t d) (hn : n % 832 ≠ 831) :
    Lapped b n t (d.reboot supply) ∧ RestoredBy supply d t n := by
  obtain ⟨c, hstored, hlap, ht, htop⟩ := h.newest
  have hp := h.mode.page
  have hstop := hlap.stops (by omega) (by decide)
  obtain ⟨hmode', hstored', hnvm, htot⟩ := Stored.reboot (r := Ram.zero) supply h.mode.boot
    h.mode.item hstored.chain hstored.ring hstop (by omega) rfl
  change RingMode b _ (d.reboot supply) at hmode'
  change Stored b _ c (d.reboot supply) at hstored'
  change (d.reboot supply).nvm = d.nvm at hnvm
  refine ⟨⟨hmode', ?_, c, hstored', ?_, ht, htop⟩, htot.trans ht, hstored'.number.symm.trans htop, c, ?_, ht, htop⟩
  · rw [hnvm]; exact h.tail
  · rw [hnvm]; exact hlap
  · rw [hmode'.toNat_pointer]
    exact hstored'.chain.last

/-- On the last page the loop of `init_config` runs off the region, and the default is written. -/
theorem Lapped.reboot_last (h : Lapped b n t d) (hs : Powered supply) (hn : n % 832 = 831) :
    (d.reboot supply).ram.watermeterConfig = firstRecord b := by
  obtain ⟨c, hstored, -, -, -⟩ := h.newest
  have hinit := initConfig_exhausted h.mode.boot h.mode.item (hn ▸ hstored.chain) Ram.zero
  rw [Device.reboot, initConfig_eq_reinit hinit, reinit_eq (getUserDataAddr_bounds h.mode.boot _) hs]

theorem Lapped.not_restored (h : Lapped b n t d) (hs : Powered supply) (hn : n % 832 = 831) :
    ¬ RestoredBy supply d t n := by
  rintro ⟨-, htop, -⟩
  rw [h.reboot_last hs hn] at htop
  have hzero : (BitVec.ofNat 32 n).toNat = 0 := by rw [← htop]; rfl
  rw [BitVec.toNat_ofNat] at hzero
  omega

/-- The device recovers, and recovers again after a further save, exactly when the pointer is on neither of
the last two pages. -/
theorem updates_restored_iff {b : Bank} {v : Nvm} (hboot : mcuBootAddrGet v.flash = b.base) {supply : Supply}
    (hs : Powered supply) (updates : List Totals) :
    (RestoredBy supply (run (Device.update supply) (freshDevice supply v) updates) (newestTotals updates)
        updates.length ∧
      ∀ t, RestoredBy supply
        (((run (Device.update supply) (freshDevice supply v) updates).reboot supply).update supply t) t
        (updates.length + 1)) ↔
      updates.length % 832 ≠ 831 ∧ (updates.length + 1) % 832 ≠ 831 := by
  have hrun := lapped_updates hs updates (lapped_fresh hboot hs)
  rw [Nat.zero_add] at hrun
  constructor
  · rintro ⟨hfirst, hsecond⟩
    have hn : updates.length % 832 ≠ 831 := fun hn => hrun.not_restored hs hn hfirst
    refine ⟨hn, fun hn' => ?_⟩
    have hnext := (hrun.reboot supply hn).1.update hs defaultTotals
    exact hnext.not_restored hs hn' (hsecond defaultTotals)
  · rintro ⟨hn, hn'⟩
    obtain ⟨hagain, hfirst⟩ := hrun.reboot supply hn
    exact ⟨hfirst, fun t => ((hagain.update hs t).reboot supply hn').2⟩

theorem update_restored : RestoredBy (fun _ => 3000)
    (run (Device.update fun _ => 3000) (freshDevice (fun _ => 3000) ⟨blankFlash .low, none⟩) [⟨10, 20, 10⟩])
    ⟨10, 20, 10⟩ 1 :=
  have h := updates_restored_iff (v := ⟨blankFlash .low, none⟩) (mcuBootAddrGet_blankFlash .low)
    (powered_const (by decide : batterySafetyThreshold ≤ 3000)) [⟨10, 20, 10⟩]
  (h.mpr ⟨by decide, by decide⟩).1

/-- After 831 updates the record is in the last page, and a power cycle puts the counters back to zero. -/
theorem last_page_not_restored : ¬ ∀ (b : Bank) (v : Nvm) (supply : Supply), mcuBootAddrGet v.flash = b.base →
    Powered supply → ∀ updates : List Totals,
      RestoredBy supply (run (Device.update supply) (freshDevice supply v) updates) (newestTotals updates)
          updates.length ∧
        ∀ t, RestoredBy supply
          (((run (Device.update supply) (freshDevice supply v) updates).reboot supply).update supply t) t
          (updates.length + 1) := by
  intro h
  have hs : Powered fun _ => 3000 := powered_const (by decide)
  have hboot := mcuBootAddrGet_blankFlash .low
  have hrestored := (h .low ⟨blankFlash .low, none⟩ _ hboot hs (List.replicate 831 ⟨10, 20, 10⟩)).1
  have hrun := lapped_updates hs (List.replicate 831 ⟨10, 20, 10⟩)
    (lapped_fresh (v := ⟨blankFlash .low, none⟩) hboot hs)
  rw [Nat.zero_add, List.length_replicate] at hrun
  rw [List.length_replicate] at hrestored
  exact hrun.not_restored hs (by decide) hrestored

end Watermeter
