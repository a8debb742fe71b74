import ClimateNode.App.App
import ClimateNode.Platform.HostFlash

/-!
# Configurations across reboots

The application on the emulated flash: configuration updates and reboots in any order, from any
content of the two slots. A record beside the state keeps the image of the last update that returned
`ERR_OK`. The configuration of the application is that image, and before the first such update what
the slots held when the node was first started (`host_config_durable`).

On a flash that refuses an image the update is not undone: the application has already taken the
image over when it is saved, so a failed update leaves the application as it was exactly when there
was nothing to undo (`update_atomic_iff`).
-/

set_option autoImplicit false

namespace ClimateNode.Application

open ClimateNode.Core ClimateNode.Service ClimateNode.Platforms

/-- A configuration update or a reboot. -/
inductive StoreOp where
  | update (newCfg : DeviceConfig)
  | reboot

/-- A node with the image of the last update that returned `ERR_OK`. -/
structure StoredNode where
  sys : AppSys HostFlash
  lastUpdate : Option DeviceConfig

/-- One operation. A reboot keeps the flash and the record. -/
def storeStep (n : StoredNode) : StoreOp → StoredNode
  | .update newCfg =>
      let r := appUpdateConfig hostFlash n.sys newCfg
      ⟨r.2, if r.1 = .ok then some newCfg else n.lastUpdate⟩
  | .reboot => { n with sys := appInit hostFlash n.sys.plat n.sys.flash }

/-- The node after `ops` from `sys`, before any update. -/
def storeRun (sys : AppSys HostFlash) (ops : List StoreOp) : StoredNode :=
  ops.foldl storeStep ⟨sys, none⟩

/-- What the slots provide at the first start: slot 0, else slot 1, else the defaults. -/
def providedConfig (flash : HostFlash) : DeviceConfig :=
  if storageValidate (configOfImage (hostSlot flash 0)) then configOfImage (hostSlot flash 0)
  else if storageValidate (configOfImage (hostSlot flash 1)) then configOfImage (hostSlot flash 1)
  else storageLoadDefaults

/-- The configuration that has to be there: the last one stored, else what the slots provided. -/
def durableConfig (flash : HostFlash) (lastUpdate : Option DeviceConfig) : DeviceConfig :=
  lastUpdate.getD (providedConfig flash)

/-! ## Loading -/

section Load

variable (flash : HostFlash)

/-- The application starts from what the slots provide. -/
theorem appLoadedCfg_hostFlash : appLoadedCfg hostFlash flash = providedConfig flash := by
  unfold appLoadedCfg providedConfig
  rw [storageLoad_hostFlash]
  -- slot 0, slot 1 and the defaults
  by_cases hv0 : storageValidate (configOfImage (hostSlot flash 0)) = true
  · simp only [if_pos hv0, ne_eq, not_true_eq_false, if_false]
  · by_cases hv1 : storageValidate (configOfImage (hostSlot flash 1)) = true
    · simp only [if_neg hv0, if_pos hv1, ne_eq, not_true_eq_false, if_false]
    · simp [if_neg hv0, if_neg hv1]

/-- What the slots provide is valid. -/
theorem storageValidate_providedConfig : storageValidate (providedConfig flash) = true := by
  unfold providedConfig
  split
  · assumption
  · split
    · assumption
    · exact storageValidate_storageLoadDefaults

end Load

/-! ## Runs -/

section Runs

/-- The emulated flash takes every valid image. -/
theorem appliesConfig_hostFlash (flash : HostFlash) (newCfg : DeviceConfig) :
    AppliesConfig hostFlash flash newCfg ↔ storageValidate newCfg = true := and_iff_left rfl

/-- The state of a run that was started from `flash`. -/
structure DurableInv (flash : HostFlash) (n : StoredNode) : Prop where
  config : n.sys.app.cfg = durableConfig flash n.lastUpdate
  valid : ∀ cfg, n.lastUpdate = some cfg → storageValidate cfg = true
  slot0 : hostSlot n.sys.flash 0 = (n.lastUpdate.map configImage).getD (hostSlot flash 0)
  slot1 : hostSlot n.sys.flash 1 = hostSlot flash 1

variable {flash : HostFlash} {n : StoredNode}

/-- What the slots provide is what was last stored. -/
theorem DurableInv.provided (h : DurableInv flash n) :
    providedConfig n.sys.flash = durableConfig flash n.lastUpdate := by
  unfold durableConfig
  cases hlast : n.lastUpdate with
  | none =>
      simp only [providedConfig, h.slot0, h.slot1, hlast, Option.map_none, Option.getD_none]
  | some cfg =>
      have h0 : configOfImage (hostSlot n.sys.flash 0) = cfg := by
        rw [h.slot0, hlast]
        exact configOfImage_configImage cfg
      rw [providedConfig, h0, if_pos (h.valid cfg hlast), Option.getD_some]

theorem storeStep_reboot (n : StoredNode) :
    storeStep n .reboot = ⟨appInit hostFlash n.sys.plat n.sys.flash, n.lastUpdate⟩ := rfl

/-- One operation keeps it. -/
theorem DurableInv.step (h : DurableInv flash n) (op : StoreOp) :
    DurableInv flash (storeStep n op) := by
  cases op with
  | update newCfg =>
      by_cases hvalid : storageValidate newCfg = true
      · -- the image is written to slot 0
        have hup := appUpdateConfig_of_applies (σ := n.sys)
          ((appliesConfig_hostFlash n.sys.flash newCfg).2 hvalid)
        simp only [storeStep, hup, if_pos]
        refine ⟨rfl, fun cfg hcfg => ?_, hostSlot_writeSlot n.sys.flash _ 0 _, ?_⟩
        · cases hcfg
          exact hvalid
        · exact (hostSlot_writeSlot_ne n.sys.flash _ (by decide) _).trans h.slot1
      · -- the update is rejected before anything is assigned
        have hstep : storeStep n (.update newCfg) = n := by
          simp [storeStep, appUpdateConfig, hvalid]
        rw [hstep]
        exact h
  | reboot =>
      constructor
      · rw [storeStep_reboot, appInit_cfg, appLoadedCfg_hostFlash, h.provided]
      · exact h.valid
      · rw [storeStep_reboot, appInit_flash, h.slot0]
      · rw [storeStep_reboot, appInit_flash, h.slot1]

theorem DurableInv.run (h : DurableInv flash n) (ops : List StoreOp) :
    DurableInv flash (ops.foldl storeStep n) := by
  induction ops generalizing n with
  | nil => exact h
  | cons op ops ih => exact ih (h.step op)

/-- From whatever state the node was in, from its first start on, the configuration is the image of
the last update that returned `ERR_OK`, else what the slots provided. It is always valid, and slot 1
is never written. -/
theorem host_config_durable (sys : AppSys HostFlash) (ops : List StoreOp) :
    let n := storeRun sys (.reboot :: ops)
    configImage n.sys.app.cfg = configImage (durableConfig sys.flash n.lastUpdate) ∧
      storageValidate n.sys.app.cfg = true ∧ hostSlot n.sys.flash 1 = hostSlot sys.flash 1 := by
  have hstart : DurableInv sys.flash (storeStep ⟨sys, none⟩ .reboot) := by
    constructor
    · rw [storeStep_reboot, appInit_cfg, appLoadedCfg_hostFlash, durableConfig, Option.getD_none]
    · rintro cfg ⟨⟩
    · rw [storeStep_reboot, appInit_flash, Option.map_none, Option.getD_none]
    · rw [storeStep_reboot, appInit_flash]
  have h : DurableInv sys.flash (storeRun sys (.reboot :: ops)) := hstart.run ops
  have hvalid : storageValidate (storeRun sys (.reboot :: ops)).sys.app.cfg = true := by
    rw [h.config, ← h.provided]
    exact storageValidate_providedConfig _
  exact ⟨congrArg configImage h.config, hvalid, h.slot1⟩

end Runs

/-! ## Failed updates -/

section FailedUpdates

variable {F : Type} (d : FlashDriver F)

/-- An update that fails leaves the application as it was. -/
def AtomicUpdate (σ : AppSys F) (newCfg : DeviceConfig) : Prop :=
  (appUpdateConfig d σ newCfg).1 ≠ .ok → (appUpdateConfig d σ newCfg).2.app = σ.app

/-- The flash refuses a valid image after the application has taken it over. -/
theorem appUpdateConfig_of_refused {σ : AppSys F} {newCfg : DeviceConfig}
    (hvalid : storageValidate newCfg = true) (hwrite : (d.write σ.flash 0 newCfg).1 ≠ .ok) :
    (appUpdateConfig d σ newCfg).1 ≠ .ok ∧
      (appUpdateConfig d σ newCfg).2.app = { σ.app with cfg := newCfg } := by
  have hsave := storageSave_of_valid d σ.flash hvalid
  simp [appUpdateConfig, hvalid, hsave, hwrite]

/-- An update is atomic exactly when the image is rejected before the assignment, is the one the
application holds already, or is taken by the flash. -/
theorem update_atomic_iff (σ : AppSys F) (newCfg : DeviceConfig) :
    AtomicUpdate d σ newCfg ↔
      storageValidate newCfg = false ∨ newCfg = σ.app.cfg ∨
        (d.write σ.flash 0 newCfg).1 = .ok := by
  cases hvalid : storageValidate newCfg with
  | false =>
      refine iff_of_true (fun _ => ?_) (Or.inl rfl)
      simp [appUpdateConfig, hvalid]
  | true =>
      by_cases hwrite : (d.write σ.flash 0 newCfg).1 = .ok
      · refine iff_of_true (fun hfail => absurd ?_ hfail) (Or.inr (Or.inr hwrite))
        exact appUpdateConfig_eq_ok_iff.2 ⟨hvalid, hwrite⟩
      · -- the stored copy is the new image, whatever it was before
        obtain ⟨hfail, happ⟩ := appUpdateConfig_of_refused d hvalid hwrite
        constructor
        · intro hatomic
          have hsame := congrArg App.cfg ((hatomic hfail).symm.trans happ)
          exact Or.inr (Or.inl hsame.symm)
        · rintro (h | h | h)
          · cases h
          · intro _
            rw [happ, h]
          · exact absurd h hwrite

/-- A node without flash, and an image that differs from its default configuration. -/
theorem update_not_atomic :
    ¬ ∀ (F : Type) (d : FlashDriver F) (σ : AppSys F) (newCfg : DeviceConfig),
      AtomicUpdate d σ newCfg := by
  intro h
  let newCfg := storageFinalize { storageLoadDefaults with dewMarginOnCd := 400 }
  have hvalid : storageValidate newCfg = true := storageValidate_storageFinalize _
  have hwrite : (stubFlash.write () 0 newCfg).1 ≠ .ok := by decide
  obtain ⟨hfail, happ⟩ :=
    appUpdateConfig_of_refused stubFlash (σ := appInit stubFlash ⟨[], 0⟩ ()) hvalid hwrite
  have hsame := (h Unit stubFlash _ newCfg hfail).symm.trans happ
  have hmargin := congrArg (fun app : App => app.cfg.dewMarginOnCd) hsame
  have h500 : (appInit stubFlash ⟨[], 0⟩ ()).app.cfg.dewMarginOnCd = 500 := rfl
  rw [h500] at hmargin
  exact absurd hmargin (by decide)

end FailedUpdates

end ClimateNode.Application
