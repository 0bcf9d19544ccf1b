import NdisRebind.Router.Session

namespace NdisRebind

/-- What `main` reads: the driver's answer, the two `iphelper` queries for 1.1.1.1, the two console
lines, as `std::wcin` and `std::cin` store them, and the driver's answers to `start_filter`. -/
structure MainInput where
  driverLoaded : Bool
  routableAdapters : List NetworkAdapterInfo
  defaultAdapter : Option NetworkAdapterInfo
  appNameW : String
  idx : UInt64
  defaultAccepted : Bool
  rebindAccepted : Bool

/-- How `main` ends: a return with its code, the line printed last and the router as the
destructor finds it; the wait for a key with both adapters filtered; or the read
`routable_adapters[idx - 1]` past the end of the vector. -/
inductive MainOutcome
  | exited (code : Nat) (message : String) (rebind : RebindRouter)
  | filtering (rebind : RebindRouter)
  | outOfBoundsRead (index : UInt64)

/-- The erase-remove of the default adapter from the routable ones. -/
def alternativeAdapters {α : Type} [BEq α] (routableAdapters : List α) (defaultAdapter : α) :
    List α :=
  routableAdapters.filter fun a => !(defaultAdapter == a)

def selectionIndex {α : Type} (routableAdapters : List α) (input : UInt64) : UInt64 :=
  if routableAdapters.length > 1 then input else 1

def rebindAndFilter (rebind : RebindRouter) (defaultAdapter rebindAdapter : NetworkAdapterInfo)
    (defaultAccepted rebindAccepted : Bool) : MainOutcome :=
  match rebind.setNdisInterfacesByAdapterInfo defaultAdapter rebindAdapter with
  | .error message => .exited 0 message rebind
  | .ok rebind => match rebind.start defaultAccepted rebindAccepted with
    | (.error message, rebind) => .exited 0 message rebind
    | (.ok (), rebind) => .filtering rebind

/-- `main`, after constructing the router. `network_adapter_info::operator==` is not part of the
repository: `main` is stated for any equality on adapters. -/
def main [BEq NetworkAdapterInfo] (rebind : RebindRouter) (input : MainInput) : MainOutcome :=
  if !input.driverLoaded then .exited 1 "WinpkFilter is not loaded\n\n" rebind
  else match input.defaultAdapter with
    | none => .exited 0
      "IP address 1.1.1.1 is not reachable. System does not have Internet connection.\n" rebind
    | some defaultAdapter =>
      if input.routableAdapters.length = 1 then .exited 0
        "System has only one Internet connected interface. Rebind is useless.\n" rebind
      else
        let routableAdapters := alternativeAdapters input.routableAdapters defaultAdapter
        let rebind := rebind.setApplicationName input.appNameW
        let idx := selectionIndex routableAdapters input.idx
        if idx.toNat > routableAdapters.length then .exited 0
          "Wrong parameter was selected. Out of range.\n" rebind
        else match routableAdapters[(idx - 1).toNat]? with
          | none => .outOfBoundsRead (idx - 1)
          | some rebindAdapter =>
            rebindAndFilter rebind defaultAdapter rebindAdapter input.defaultAccepted
              input.rebindAccepted

theorem rebindAndFilter_ne_outOfBoundsRead (rebind : RebindRouter)
    (defaultAdapter rebindAdapter : NetworkAdapterInfo) (defaultAccepted rebindAccepted : Bool)
    (index : UInt64) :
    rebindAndFilter rebind defaultAdapter rebindAdapter defaultAccepted rebindAccepted ≠
      .outOfBoundsRead index := by
  unfold rebindAndFilter
  split
  · exact MainOutcome.noConfusion
  · split <;> exact MainOutcome.noConfusion

theorem main_eq_filtering [BEq NetworkAdapterInfo] {rebind filtered : RebindRouter}
    {input : MainInput} (waits : main rebind input = .filtering filtered) :
    ∃ defaultAdapter rebindAdapter configured, input.defaultAdapter = some defaultAdapter ∧
      rebindAdapter ∈ alternativeAdapters input.routableAdapters defaultAdapter ∧
      (rebind.setApplicationName input.appNameW).setNdisInterfacesByAdapterInfo defaultAdapter
        rebindAdapter = .ok configured ∧
      configured.start input.defaultAccepted input.rebindAccepted = (.ok (), filtered) := by
  unfold main at waits
  split at waits
  · cases waits
  · split at waits
    · cases waits
    · next defaultAdapter present =>
      dsimp only at waits
      split_ifs at waits
      split at waits
      · cases waits
      · next rebindAdapter read =>
        unfold rebindAndFilter at waits
        split at waits
        · cases waits
        · next configured configures =>
          split at waits
          · cases waits
          · next starts =>
            cases waits
            exact ⟨_, _, _, present, List.getElem?_mem read, configures, starts⟩

theorem main_filters_with_selected_binding [BEq NetworkAdapterInfo] (rebind : RebindRouter)
    (input : MainInput) (filtered : RebindRouter) (waits : main rebind input = .filtering filtered) :
    filtered.Filtering ∧ filtered.appName = input.appNameW ∧
      ∃ defaultAdapter rebindAdapter, input.defaultAdapter = some defaultAdapter ∧
        rebindAdapter ∈ alternativeAdapters input.routableAdapters defaultAdapter ∧
        (∃ ndisDefault ndisRebind,
          getNdisInterfaceByAdapterInfo rebind.filter.interfaceList defaultAdapter = some ndisDefault ∧
          getNdisInterfaceByAdapterInfo rebind.filter.interfaceList rebindAdapter = some ndisRebind ∧
          filtered.filter.firstAdapter = some (rebind.filter.interfaceList.get ndisDefault).adapter ∧
          filtered.filter.secondAdapter = some (rebind.filter.interfaceList.get ndisRebind).adapter) ∧
        filtered.defaultSrcIpAddress =
          lastInetAddress defaultAdapter.unicastAddressList rebind.defaultSrcIpAddress ∧
        filtered.rebindSrcIpAddress =
          lastInetAddress rebindAdapter.unicastAddressList rebind.rebindSrcIpAddress := by
  obtain ⟨defaultAdapter, rebindAdapter, configured, present, alternative, configures, starts⟩ :=
    main_eq_filtering waits
  obtain ⟨ndisDefault, ndisRebind, found, foundRebind, rfl⟩ :=
    RebindRouter.setNdisInterfacesByAdapterInfo_eq_ok configures
  obtain rfl := RebindRouter.start_eq_ok starts
  exact ⟨⟨rfl, rfl⟩, rfl, defaultAdapter, rebindAdapter, present, alternative,
    ⟨ndisDefault, ndisRebind, found, foundRebind, rfl, rfl⟩, rfl, rfl⟩

def wiredPair : MainInput where
  driverLoaded := true
  routableAdapters := [unaddressedAdapter "ETH0", unaddressedAdapter "ETH1"]
  defaultAdapter := some (unaddressedAdapter "ETH0")
  appNameW := "vpnclient.exe"
  idx := 0
  defaultAccepted := true
  rebindAccepted := true

theorem wired_pair_filters :
    ∃ filtered, main (RebindRouter.init unaddressedInterfaces ⟨[], [], [], []⟩) wiredPair =
      .filtering filtered ∧ filtered.Filtering ∧ filtered.appName = "vpnclient.exe" := by
  obtain ⟨filtered, waits⟩ : ∃ filtered,
      main (RebindRouter.init unaddressedInterfaces ⟨[], [], [], []⟩) wiredPair =
        .filtering filtered := ⟨_, rfl⟩
  obtain ⟨filtering, named, -⟩ := main_filters_with_selected_binding _ _ _ waits
  exact ⟨filtered, waits, filtering, named⟩

theorem toNat_sub_one {idx : UInt64} (positive : idx ≠ 0) : (idx - 1).toNat = idx.toNat - 1 := by
  have nonzero : idx.toNat ≠ 0 := fun zero => positive (UInt64.toNat.inj zero)
  exact UInt64.toNat_sub_of_le _ _
    (UInt64.le_def.mpr (BitVec.le_def.mpr (Nat.one_le_iff_ne_zero.mpr nonzero)))

section Selection

variable {α : Type} {routableAdapters : List α} {input : UInt64}

theorem selection_read_eq_none (fits : routableAdapters.length < UInt64.size)
    (inRange : ¬ (selectionIndex routableAdapters input).toNat > routableAdapters.length) :
    routableAdapters[(selectionIndex routableAdapters input - 1).toNat]? = none ↔
      1 < routableAdapters.length ∧ input = 0 := by
  rw [List.getElem?_eq_none_iff]
  unfold selectionIndex at inRange ⊢
  split_ifs at inRange ⊢ with choice
  · by_cases zero : input = 0
    · subst zero
      simp only [choice, true_and, iff_true]
      have wrapped : ((0 : UInt64) - 1).toNat = UInt64.size - 1 := rfl
      omega
    · simp only [toNat_sub_one zero, zero, and_false, iff_false]
      have positive : input.toNat ≠ 0 := fun h => zero (UInt64.toNat.inj h)
      omega
  · simp only [choice, false_and, iff_false]
    have first : ((1 : UInt64) - 1).toNat = 0 := rfl
    have one : (1 : UInt64).toNat = 1 := rfl
    omega

end Selection

/-- The bound check at line 533 tests only `idx > routable_adapters.size()`: when the console gives
0 (what `std::cin` also stores on input that is not a number) while there are two or more
alternatives, `idx - 1` wraps to `SIZE_MAX` and `main` reads past the end of the vector. Every
other run of `main` returns, or waits with the router filtering, before any such read. -/
theorem main_reads_past_alternatives [BEq NetworkAdapterInfo] (rebind : RebindRouter)
    (input : MainInput) (index : UInt64) (fits : input.routableAdapters.length < UInt64.size) :
    main rebind input = .outOfBoundsRead index ↔
      input.driverLoaded ∧ ∃ defaultAdapter, input.defaultAdapter = some defaultAdapter ∧
        1 < (alternativeAdapters input.routableAdapters defaultAdapter).length ∧ input.idx = 0 ∧
        index = 18446744073709551615 := by
  unfold main
  split
  next unloaded => simp_all
  next unloaded =>
    split
    next missing => simp [missing]
    next defaultAdapter present =>
      have shorter : (alternativeAdapters input.routableAdapters defaultAdapter).length ≤
          input.routableAdapters.length := List.length_filter_le _ _
      simp only [Bool.not_eq_true', Bool.not_eq_false] at unloaded
      simp only [unloaded, present, Option.some.injEq, exists_eq_left', true_and]
      split_ifs with single outOfRange
      · simp only [reduceCtorEq, false_iff, not_and]
        omega
      · simp only [reduceCtorEq, false_iff, not_and]
        intro choice zero
        simp [selectionIndex, choice, zero] at outOfRange
      · have bounded := selection_read_eq_none (lt_of_le_of_lt shorter fits) outOfRange
        split
        next read =>
          obtain ⟨choice, zero⟩ := bounded.mp read
          simp only [selectionIndex, choice, if_true, zero, MainOutcome.outOfBoundsRead.injEq,
            true_and]
          exact eq_comm
        next rebindAdapter read =>
          simp only [rebindAndFilter_ne_outOfBoundsRead, false_iff, not_and]
          exact fun choice zero _ => by simp [bounded.mpr ⟨choice, zero⟩] at read

/-- A wired default route with two wireless alternatives, and a console line that is not a
number. -/
def unnumberedSelection : MainInput where
  driverLoaded := true
  routableAdapters := [⟨"ETH0", 6, [], []⟩, ⟨"WLAN0", 71, [], []⟩, ⟨"WWAN0", 243, [], []⟩]
  defaultAdapter := some ⟨"ETH0", 6, [], []⟩
  appNameW := "vpnclient.exe"
  idx := 0
  defaultAccepted := true
  rebindAccepted := true

theorem unnumbered_selection_reads_past_alternatives :
    unnumberedSelection.routableAdapters.length < UInt64.size ∧
      main (RebindRouter.init [] ⟨[], [], [], []⟩) unnumberedSelection =
        .outOfBoundsRead 18446744073709551615 :=
  ⟨by decide, (main_reads_past_alternatives _ _ _ (by decide)).mpr
    ⟨rfl, _, rfl, by decide, rfl, rfl⟩⟩

end NdisRebind
