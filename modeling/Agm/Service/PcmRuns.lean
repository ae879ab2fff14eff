import Agm.Service.ClosedPrepare
import Agm.Service.DeviceCounts
import Agm.Service.GslProtocol

/-!
# The service at its devices

Seen from the PCM devices, an operation of the service is a sequence of calls of `device.c`, each from wherever the
session layer comes to it.  A run of the service is then a run of the counts of `DeviceCounts`, and what was shown of
those holds for the service, whatever the sessions do with the devices they share.
-/

namespace Agm.Service

open Agm.Lib

/-- The calls of `device.c` lead from the one state of the devices to the other. -/
def Hw.DeviceRun (hw hw' : Hw) : Prop := Runs Devices.exec Devices.PreparesOpen hw.devices hw'.devices

instance : IsPreorder Hw Hw.DeviceRun where
  refl hw := Runs.refl hw.devices
  trans _ _ _ h h' := Relation.ReflTransGen.trans h h'

theorem deviceRun_of_eq {hw hw' : Hw} (h : hw'.devices = hw.devices) : hw.DeviceRun hw' := by
  unfold Hw.DeviceRun
  rw [h]
  exact Runs.refl _

/-- A call to GSL. -/
theorem deviceRun_called (hw : Hw) {k : Call} (hk : ¬ k.isPcm) : hw.DeviceRun (hw.called k) := by
  refine deviceRun_of_eq ?_
  have hnone : Event.toPcm ⟨k, hw.answer k⟩ = none := by
    cases k <;> first | rfl | exact absurd rfl hk
  rw [hw.devices_called, hnone]
  simp

theorem devices_setDev_params (hw : Hw) (d : DevId) (p : Option Payload) :
    (hw.setDev d { hw.devs d with params := p }).devices = hw.devices := by
  unfold Hw.devices Hw.setDev
  simp only [Devices.mk.injEq, and_true]
  refine ⟨?_, ?_, ?_⟩ <;> funext o <;> by_cases ho : o = d <;> simp [ho]

/-- A device that is prepared has its PCM open: on one that has not, `device_prepare` brings down the process. -/
theorem sat_devicePrepare_open (d : DevId) (hw : Hw) : Sat (devicePrepare d) hw fun _ _ =>
    0 < (hw.devs (hw.pcmObj d)).refcnt.nOpen := by
  have hpos (h : (hw.devs (hw.pcmObj d)).refcnt.nOpen ≠ 0) : 0 < (hw.devs (hw.pcmObj d)).refcnt.nOpen :=
    lt_of_le_of_ne (hw.devs (hw.pcmObj d)).nonneg.1 h.symm
  unfold devicePrepare
  simp only [sat_bind, sat_get, sat_ite, sat_modify, sat_pure, sat_ask, sat_crash]
  refine ⟨fun h => hpos fun h0 => h ((hw.devs (hw.pcmObj d)).idle h0).1, fun _ => ⟨fun _ => trivial, fun h => ?_⟩⟩
  exact ⟨fun _ => hpos h, fun _ => hpos h⟩

theorem deviceRun_devFun (f : DevFun) (d : DevId) : Within Hw.DeviceRun (f.run d) := fun hw => by
  have hopen : Sat (f.run d) hw fun _ _ => f = .prepare → 0 < (hw.devs (hw.pcmObj d)).refcnt.nOpen := by
    by_cases hf : f = .prepare
    · subst hf
      exact (sat_devicePrepare_open d hw).mono fun _ _ h _ => h
    · exact fun _ _ _ h => absurd h hf
  refine ((sat_devFun f d hw).and hopen).mono fun r hw' h => (Runs.refl _).tail (fun hp o ho => ?_) h.1
  obtain rfl : d = o := Option.some.inj ho
  exact h.2 hp

theorem sysFrame_deviceRun : SysFrame Hw.DeviceRun where
  neutral hw k hk := deviceRun_called hw (by cases k <;> first | exact Bool.false_ne_true | exact Bool.noConfusion hk)
  ask hw k hk := deviceRun_called hw (by cases k <;> first | exact Bool.false_ne_true | exact Bool.noConfusion hk)
  handle hw n := deviceRun_of_eq rfl
  deviceOpen d := deviceRun_devFun .open d
  devicePrepare d := deviceRun_devFun .prepare d
  deviceClose d := deviceRun_devFun .close d
  params hw d := deviceRun_of_eq (devices_setDev_params hw d none)

theorem opFrame_deviceRun : OpFrame (Ctx.OnHw Hw.DeviceRun) :=
  sysFrame_deviceRun.opFrame (deviceRun_devFun .start) (deviceRun_devFun .stop)

/-! ## Runs -/

theorem World.deviceRun_step {w w' : World} {o : SessId × Op} {r : Int} (hw : w.Each SessionObj.ClosedBare)
    (h : exec o w = some (r, w')) : w.hw.DeviceRun w'.hw := by
  refine exec_inv (I := fun w₁ => w.hw.DeviceRun w₁.hw) h (refl_of Hw.DeviceRun w.hw) (refl_of Hw.DeviceRun w.hw)
    fun hs hw₀ => ?_
  have hbare : ((w.enter o).lock o.1).sess.ClosedBare := hw.grow (fun _ _ => rfl) (w.grows_enter o) o.1 hs
  exact (opFrame_deviceRun.run o.2 hbare).mono fun _ c hc => trans_of Hw.DeviceRun hw₀ hc

theorem Devices.Right.run {s t : Devices} (hs : s.Right) (h : Runs Devices.exec Devices.PreparesOpen s t) :
    t.Right := by
  refine h.invariant hs ?_
  rintro s ⟨f, _ | d, answer⟩ r t hs hg he
  · cases he
    exact hs
  · cases he
    exact hs.put _ fun hf => hg hf d rfl

theorem Refcount.eq_zero {r : Refcount} (ho : r.nOpen = 0) (hp : r.nPrepare = 0) (hs : r.nStart = 0) : r = {} := by
  obtain ⟨nOpen, nPrepare, nStart⟩ := r
  cases ho
  cases hp
  cases hs
  rfl

theorem devicesRight_of_fresh {w : World} (h : w.Fresh) (ht : w.hw.trace = []) : w.hw.devices.Right := by
  refine ⟨fun o => ?_, ?_, fun o => ?_⟩
  · -- an object that nobody has open has no counts at all
    obtain ⟨hprep, hstart, hstate⟩ := (w.hw.devs o).idle (h.devs o)
    have hobj : w.hw.devices.objs o = {} := by
      show (⟨(w.hw.devs o).refcnt, (w.hw.devs o).state⟩ : PcmCounts) = _
      rw [hstate, Refcount.eq_zero (h.devs o) hprep hstart]
    rw [hobj]
    exact .boot
  · show EachAfter PcmEvent.InTurn (w.hw.trace.reverse.filterMap Event.toPcm)
    rw [ht]
    exact eachAfter_nil
  · show pcmIsOpen o (w.hw.trace.reverse.filterMap Event.toPcm) = true ↔ _
    rw [ht]
    exact iff_of_false Bool.false_ne_true fun hne => hne (h.devs o)

/-- The process survives an operation that prepares no device which nobody has open. -/
theorem isSome_exec {w : World} {o : SessId × Op} (hop : o.2.mayPrepare)
    (h : ¬ o.2.preparesClosed ((w.enter o).lock o.1)) : (exec o w).isSome := by
  unfold World.enter at h
  unfold exec
  split
  · rename_i ht
    rw [if_pos ht] at h
    split
    · rw [World.locked, Option.isSome_map]
      exact isSome_run hop h
    · rfl
  · rename_i ht
    rw [if_neg ht] at h
    rw [World.locked, Option.isSome_map]
    exact isSome_run hop h

/-- **The service keeps the counts of its devices.**  In every run of operations on any sessions, whatever GSL and ALSA
answer, that does not come to prepare a back end whose PCM nobody has open, every prepare, start and connect comes back,
and the run is at the devices a run of calls of `device.c` that prepares only open ones; after it the counts and the state
of every device agree, `pcm_open` and `pcm_close` have come in turn, and a PCM is open exactly as long as there are
users. -/
theorem service_refines_devices {w₀ w : World} (h₀ : w₀.Fresh) (ht : w₀.hw.trace = [])
    (h : Runs exec (fun w o => ¬ o.2.preparesClosed ((w.enter o).lock o.1)) w₀ w) :
    Runs Devices.exec Devices.PreparesOpen w₀.hw.devices w.hw.devices ∧ w.hw.devices.Right ∧
      ∀ o : SessId × Op, o.2.mayPrepare → ¬ o.2.preparesClosed ((w.enter o).lock o.1) → (exec o w).isSome := by
  have key : w.Each SessionObj.ClosedBare ∧ w₀.hw.DeviceRun w.hw := by
    refine h.invariant (I := fun w => w.Each SessionObj.ClosedBare ∧ w₀.hw.DeviceRun w.hw)
      ⟨fun s hs _ => h₀.graph s hs, refl_of Hw.DeviceRun w₀.hw⟩ fun w o r w' hw _ he =>
        ⟨?_, ?_⟩
    · exact hw.1.step (fun _ _ => rfl) he fun hφ => closedBare_run o.2 hφ
    · exact trans_of Hw.DeviceRun hw.2 (World.deviceRun_step hw.1 he)
  exact ⟨key.2, (devicesRight_of_fresh h₀ ht).run key.2, fun _ hop h => isSome_exec hop h⟩

/-- Two sessions share a device; one of them runs, the other closes.  The first can be connected to another device. -/
theorem service_refines_devices_shared :
    ∃ w, Runs exec (fun w o => ¬ o.2.preparesClosed ((w.enter o).lock o.1)) (World.boot fun _ => []) w ∧
      w.hw.devices.calls = [⟨0, .open, 0⟩, ⟨0, .prepare, 0⟩] ∧ (w.hw.devices.objs 0).refcnt.nOpen = 1 ∧
      w.hw.devices.Right ∧ (exec (1, .sessAifConnect 1 true) w).isSome := by
  obtain ⟨w, h, hseen⟩ := Runs.exists_of_execAll exec (fun w o => ¬ o.2.preparesClosed ((w.enter o).lock o.1))
    [(1, .sessAifConnect 0 true), (1, .open .default), (2, .sessAifConnect 0 true), (2, .open .default), (1, .prepare),
      (1, .start), (2, .close)]
    (World.boot fun _ => [])
    (fun w => (w.hw.devices.calls, (w.hw.devices.objs 0).refcnt.nOpen,
      Op.preparesClosed ((w.enter (1, .sessAifConnect 1 true)).lock 1) (.sessAifConnect 1 true)))
    (b := (([⟨0, .open, 0⟩, ⟨0, .prepare, 0⟩] : List PcmEvent), (1 : Int), false)) (by decide +kernel)
  obtain ⟨hcalls, hseen⟩ := Prod.mk.inj hseen
  obtain ⟨hcount, hclosed⟩ := Prod.mk.inj hseen
  have hall := service_refines_devices (World.fresh_boot _) rfl h
  have hconnect := hall.2.2 (1, .sessAifConnect 1 true) rfl (by rw [hclosed]; exact Bool.false_ne_true)
  exact ⟨w, h, hcalls, hcount, hall.2.1, hconnect⟩

/-- A disconnect closes the device of a back end that was never connected, and the session that has it open starts. -/
theorem start_of_closed : ∃ w, Runs exec (fun _ _ => True) (World.boot fun k => if k = .addGraph then [1] else []) w ∧
    exec (2, .start) w = none := by
  obtain ⟨w, h, hseen⟩ := Runs.exists_of_execAll exec (fun _ _ => True)
    [(2, .sessAifConnect 0 true), (2, .open .default), (1, .sessAifConnect 0 true), (1, .sessAifConnect 1 true),
      (1, .open .default), (1, .sessAifConnect 0 false)]
    (World.boot fun k => if k = .addGraph then [1] else []) (fun w => (exec (2, .start) w).isSome) (b := false)
    (by decide +kernel)
  exact ⟨w, h, Option.not_isSome_iff_eq_none.1 (by rw [hseen]; exact Bool.false_ne_true)⟩

end Agm.Service
