import AbstractumVpn.AdminServerConfig
import Mathlib.Data.List.Find

/-!
`InstallController`: the containers of a self-hosted server are removed, all or
one at a time, and found again by a scan. Each of the three operations settles
anew which container is the default one.
-/

namespace AbstractumVpn.InstallController

open AdminServerConfig ContainerUtils ContainerMap
open SiteRoutes (DockerContainer)

variable {Protocol : Type}

def removeAllContainers (config : Config Protocol) : Config Protocol :=
  { config with containers := fun _ => none, defaultContainer := .none }

def removeContainer (container : DockerContainer) (config : Config Protocol) : Config Protocol :=
  let containers := config.containers.remove container
  let defaultContainer :=
    if config.defaultContainer = container then containers.first.getD .none
    else config.defaultContainer
  { config with containers, defaultContainer }

def getAlreadyInstalledContainers (found : List (DockerContainer × ContainerConfig Protocol)) :
    ContainerMap (ContainerConfig Protocol) :=
  (found.filter fun entry => entry.1 ≠ .none && !isUnsupportedContainer entry.1).foldl
    (fun installed entry => installed.insert entry.1 entry.2) fun _ => none

section Scan

variable (platform : Platform)
  -- `processContainerForAdmin`, nothing when it ends in an error
  (processContainerForAdmin : DockerContainer → ContainerConfig Protocol →
    Option (ContainerConfig Protocol))

def scannedDefault (container defaultContainer : DockerContainer) : DockerContainer :=
  if defaultContainer = .none ∧ containerService container ≠ .other ∧
      isSupportedByCurrentPlatform platform container = true then container
  else defaultContainer

def withFound (config : Config Protocol) (container : DockerContainer)
    (processed : ContainerConfig Protocol) : Config Protocol :=
  { config with
    containers := config.containers.insert container processed
    defaultContainer := scannedDefault platform container config.defaultContainer }

def scanContainers (installed : ContainerMap (ContainerConfig Protocol)) :
    List DockerContainer → Config Protocol → Option (Config Protocol)
  | [], config => some config
  | container :: rest, config =>
    match config.containers container, installed container with
    | none, some found =>
      (processContainerForAdmin container found).bind fun processed =>
        scanContainers installed rest (withFound platform config container processed)
    | _, _ => scanContainers installed rest config

def scanServerForInstalledContainers (found : List (DockerContainer × ContainerConfig Protocol))
    (config : Config Protocol) : Option (Config Protocol) :=
  let installed := getAlreadyInstalledContainers found
  scanContainers platform processContainerForAdmin installed installed.keys config

end Scan

inductive Event (Protocol : Type) where
  | removeAll (answered saved : Bool)
  | remove (container : DockerContainer) (answered saved : Bool)
  | scan (found : Option (List (DockerContainer × ContainerConfig Protocol)))
      (processContainerForAdmin : DockerContainer → ContainerConfig Protocol →
        Option (ContainerConfig Protocol)) (saved : Bool)

def result (platform : Platform) (config : Config Protocol) :
    Event Protocol → Option (Config Protocol)
  | .removeAll answered saved =>
    if answered && saved then some (removeAllContainers config) else none
  | .remove container answered saved =>
    if answered && saved then some (removeContainer container config) else none
  | .scan (some found) processContainerForAdmin true =>
    scanServerForInstalledContainers platform processContainerForAdmin found config
  | .scan _ _ _ => none

def step (platform : Platform) (config : Config Protocol) (event : Event Protocol) :
    Config Protocol :=
  if config.credentials.isValid then (result platform config event).getD config else config

def MayBeDefault (containers : ContainerMap (ContainerConfig Protocol))
    (container : DockerContainer) : Prop :=
  container = .none ∨ (containers container).isSome = true ∧ containerService container = .vpn

def DefaultHolds (config : Config Protocol) : Prop :=
  MayBeDefault config.containers config.defaultContainer

def isCandidate (platform : Platform) (config : Config Protocol) (container : DockerContainer) :
    Bool :=
  (config.containers container).isNone && decide (containerService container ≠ .other) &&
    isSupportedByCurrentPlatform platform container

/-- Every container that is new to the config is processed without an error. -/
def Processed (config : Config Protocol) (processContainerForAdmin : DockerContainer →
    ContainerConfig Protocol → Option (ContainerConfig Protocol))
    (installed : ContainerMap (ContainerConfig Protocol)) (containers : List DockerContainer) : Prop :=
  ∀ container ∈ containers, config.containers container = none →
    ∀ found, installed container = some found → (processContainerForAdmin container found).isSome = true

/-- A container that takes the place of the default one is of the VPN type: the first one that is
left when the default container is removed, and the first new one that is no service when a scan
is saved and there was no default. -/
def ReplacedWell (platform : Platform) (config : Config Protocol) : Event Protocol → Prop
  | .removeAll _ _ => True
  | .remove container answered saved =>
    config.credentials.isValid = true → answered = true → saved = true →
      config.defaultContainer = container →
      ∀ next, (config.containers.remove container).first = some next →
        next = .none ∨ containerService next = .vpn
  | .scan found processContainerForAdmin saved =>
    config.credentials.isValid = true → saved = true → ∀ listed, found = some listed →
      let installed := getAlreadyInstalledContainers listed
      Processed config processContainerForAdmin installed installed.keys →
      config.defaultContainer = .none →
      ∀ next, installed.keys.find? (isCandidate platform config) = some next →
        containerService next = .vpn

variable {config : Config Protocol}

lemma remove_other_holds {container : DockerContainer} (holds : DefaultHolds config)
    (other : config.defaultContainer ≠ container) :
    DefaultHolds (removeContainer container config) := by
  have same : (removeContainer container config).defaultContainer = config.defaultContainer :=
    if_neg other
  rw [DefaultHolds, same]
  rcases holds with none | ⟨stored, vpn⟩
  · exact Or.inl none
  · refine Or.inr ⟨?_, vpn⟩
    change (config.containers.remove container config.defaultContainer).isSome = true
    rwa [remove_apply, if_neg other]

lemma remove_default_holds_iff (config : Config Protocol) :
    DefaultHolds (removeContainer config.defaultContainer config) ↔
      ∀ next, (config.containers.remove config.defaultContainer).first = some next →
        next = .none ∨ containerService next = .vpn := by
  have chosen : (removeContainer config.defaultContainer config).defaultContainer =
      (config.containers.remove config.defaultContainer).first.getD .none := if_pos rfl
  rw [DefaultHolds, chosen]
  cases found : (config.containers.remove config.defaultContainer).first with
  | none => simp [MayBeDefault]
  | some next =>
    have stored := first_some found
    constructor
    · rintro (none | ⟨-, vpn⟩) other same
      · exact Or.inl (Option.some.inj same ▸ none)
      · exact Or.inr (Option.some.inj same ▸ vpn)
    · intro allowed
      rcases allowed next rfl with none | vpn
      · exact Or.inl none
      · exact Or.inr ⟨stored, vpn⟩

section Scans

variable {platform : Platform} {processContainerForAdmin : DockerContainer →
  ContainerConfig Protocol → Option (ContainerConfig Protocol)}
  {installed : ContainerMap (ContainerConfig Protocol)}

lemma chosen_behind {container : DockerContainer} {rest : List DockerContainer}
    (fresh : container ∉ rest) (known : config.containers container = none)
    (kind : container ≠ .none) (processed : ContainerConfig Protocol) :
    (if (withFound platform config container processed).defaultContainer = .none then
        (rest.find? (isCandidate platform (withFound platform config container processed))).getD .none
      else (withFound platform config container processed).defaultContainer) =
      if config.defaultContainer = .none then
        ((container :: rest).find? (isCandidate platform config)).getD .none
      else config.defaultContainer := by
  -- the containers behind this one are candidates as before
  have later : rest.find? (isCandidate platform (withFound platform config container processed)) =
      rest.find? (isCandidate platform config) := by
    apply List.find?_congr
    intro other member
    have different : other ≠ container := fun same => fresh (same ▸ member)
    simp [isCandidate, withFound, insert_apply, if_neg different]
  have default_eq : (withFound platform config container processed).defaultContainer =
      scannedDefault platform container config.defaultContainer := rfl
  rw [later, default_eq]
  by_cases none : config.defaultContainer = .none
  · by_cases candidate : isCandidate platform config container = true
    · have takes : scannedDefault platform container config.defaultContainer = container := by
        simp only [isCandidate, Bool.and_eq_true, decide_eq_true_eq] at candidate
        exact if_pos ⟨none, candidate.1.2, candidate.2⟩
      rw [takes, if_neg kind, if_pos none, List.find?_cons_of_pos candidate, Option.getD_some]
    · have leaves : scannedDefault platform container config.defaultContainer =
          config.defaultContainer := by
        apply if_neg
        rintro ⟨-, service, supported⟩
        apply candidate
        simp [isCandidate, known, service, supported]
      rw [leaves, List.find?_cons_of_neg candidate]
  · have leaves : scannedDefault platform container config.defaultContainer =
        config.defaultContainer := if_neg fun all => none all.1
    rw [leaves, if_neg none, if_neg none]

/-- A scan adds containers, and the default one stays or is the first candidate. -/
lemma scanContainers_spec (containers : List DockerContainer) (distinct : containers.Nodup)
    (all_installed : ∀ container ∈ containers, (installed container).isSome = true)
    (some_kind : ∀ container ∈ containers, container ≠ .none) (config after : Config Protocol)
    (scanned : scanContainers platform processContainerForAdmin installed containers config =
      some after) :
    (∀ container, (config.containers container).isSome = true →
        (after.containers container).isSome = true) ∧
      (∀ container ∈ containers, (after.containers container).isSome = true) ∧
      after.defaultContainer =
        if config.defaultContainer = .none then
          (containers.find? (isCandidate platform config)).getD .none
        else config.defaultContainer := by
  induction containers generalizing config with
  | nil =>
    cases scanned
    refine ⟨fun _ stored => stored, fun _ member => (nomatch member), ?_⟩
    split
    · assumption
    · rfl
  | cons container rest ih =>
    obtain ⟨fresh, distinct⟩ := List.nodup_cons.mp distinct
    have rest_installed : ∀ other ∈ rest, (installed other).isSome = true :=
      fun other member => all_installed other (List.mem_cons_of_mem _ member)
    have rest_kind : ∀ other ∈ rest, other ≠ .none :=
      fun other member => some_kind other (List.mem_cons_of_mem _ member)
    obtain ⟨found, here⟩ :=
      Option.isSome_iff_exists.mp (all_installed container List.mem_cons_self)
    cases known : config.containers container with
    | some held =>
      rw [scanContainers, known] at scanned
      obtain ⟨kept, added, chosen⟩ := ih distinct rest_installed rest_kind config scanned
      have passed : isCandidate platform config container = false := by
        simp [isCandidate, known]
      refine ⟨kept, ?_, ?_⟩
      · intro other member
        rcases List.mem_cons.mp member with rfl | later
        · exact kept other (by rw [known]; rfl)
        · exact added other later
      · rw [chosen, List.find?_cons_of_neg (by rw [passed]; exact Bool.false_ne_true)]
    | none =>
      rw [scanContainers, known, here] at scanned
      obtain ⟨processed, -, continued⟩ := Option.bind_eq_some_iff.mp scanned
      obtain ⟨kept, added, chosen⟩ := ih distinct rest_installed rest_kind _ continued
      have now : (after.containers container).isSome = true := by
        apply kept
        change (config.containers.insert container processed container).isSome = true
        rw [insert_apply, if_pos rfl]
        rfl
      refine ⟨?_, ?_, ?_⟩
      · intro other stored
        apply kept
        change (config.containers.insert container processed other).isSome = true
        rw [insert_apply]
        split
        · rfl
        · exact stored
      · intro other member
        rcases List.mem_cons.mp member with rfl | later
        · exact now
        · exact added other later
      · rw [chosen]
        exact chosen_behind fresh known (some_kind container List.mem_cons_self) processed

lemma scanContainers_isSome_iff (containers : List DockerContainer) (distinct : containers.Nodup)
    (config : Config Protocol) :
    (scanContainers platform processContainerForAdmin installed containers config).isSome = true ↔
      Processed config processContainerForAdmin installed containers := by
  induction containers generalizing config with
  | nil => simp [scanContainers, Processed]
  | cons container rest ih =>
    obtain ⟨fresh, distinct⟩ := List.nodup_cons.mp distinct
    rw [Processed, List.forall_mem_cons]
    cases known : config.containers container with
    | some held =>
      rw [scanContainers, known, ih distinct]
      simp [Processed]
    | none =>
      cases here : installed container with
      | none =>
        rw [scanContainers, known, here, ih distinct]
        simp [Processed]
      | some found =>
        rw [scanContainers, known, here]
        cases done : processContainerForAdmin container found with
        | none => simp [done]
        | some processed =>
          -- the containers behind this one are as new as before
          have later : ∀ other ∈ rest, (withFound platform config container processed).containers other =
              config.containers other := by
            intro other member
            have different : other ≠ container := fun same => fresh (same ▸ member)
            simp [withFound, insert_apply, if_neg different]
          simp only [Option.bind_some, ih distinct, Processed, Option.some.injEq, forall_eq', done,
            Option.isSome_some, true_imp_iff, true_and]
          exact forall₂_congr fun other member => by rw [later other member]

variable (found : List (DockerContainer × ContainerConfig Protocol))

lemma installed_kind (container : DockerContainer)
    (here : (getAlreadyInstalledContainers found container).isSome = true) : container ≠ .none := by
  have entries : ∀ entry ∈ found.filter fun entry => entry.1 ≠ .none &&
      !isUnsupportedContainer entry.1, entry.1 ≠ .none := by
    intro entry member
    simp only [List.mem_filter, Bool.and_eq_true, decide_eq_true_eq] at member
    exact member.2.1
  rintro rfl
  rw [getAlreadyInstalledContainers, insert_all_other _ entries] at here
  cases here

lemma scan_holds_iff {after : Config Protocol} (holds : DefaultHolds config)
    (scanned : scanServerForInstalledContainers platform processContainerForAdmin found config =
      some after) :
    DefaultHolds after ↔ (config.defaultContainer = .none →
      ∀ next, ((getAlreadyInstalledContainers found).keys.find? (isCandidate platform config)) =
        some next → containerService next = .vpn) := by
  obtain ⟨kept, added, chosen⟩ := scanContainers_spec _ (keys_nodup _)
    (fun container member => (mem_keys _ container).mp member)
    (fun container member => installed_kind found container
      ((mem_keys _ container).mp member)) config after scanned
  rw [DefaultHolds, chosen]
  by_cases none : config.defaultContainer = .none
  · rw [if_pos none]
    cases first : (getAlreadyInstalledContainers found).keys.find? (isCandidate platform config) with
    | none => simp [MayBeDefault]
    | some next =>
      have member := List.mem_of_find?_eq_some first
      have kind := installed_kind found next ((mem_keys _ next).mp member)
      constructor
      · rintro (is_none | ⟨-, vpn⟩) - other same
        · exact absurd is_none kind
        · exact Option.some.inj same ▸ vpn
      · intro allowed
        exact Or.inr ⟨added next member, allowed none next rfl⟩
  · rw [if_neg none]
    apply iff_of_true
    · rcases holds with is_none | ⟨stored, vpn⟩
      · exact absurd is_none none
      · exact Or.inr ⟨kept _ stored, vpn⟩
    · exact fun is_none => absurd is_none none

variable (platform processContainerForAdmin) in
lemma scan_saved_iff (holds : DefaultHolds config) :
    let installed := getAlreadyInstalledContainers found
    DefaultHolds ((scanServerForInstalledContainers platform processContainerForAdmin found
        config).getD config) ↔
      (Processed config processContainerForAdmin installed installed.keys →
        config.defaultContainer = .none →
        ∀ next, installed.keys.find? (isCandidate platform config) = some next →
          containerService next = .vpn) := by
  intro installed
  have ends : (scanServerForInstalledContainers platform processContainerForAdmin found
      config).isSome = true ↔ _ := scanContainers_isSome_iff _ (keys_nodup _) config
  rw [← ends]
  cases scanned : scanServerForInstalledContainers platform processContainerForAdmin found config with
  | none => exact iff_of_true holds fun never => nomatch never
  | some after =>
    rw [Option.getD_some, scan_holds_iff found holds scanned]
    simp [installed]

end Scans

lemma step_holds_iff (platform : Platform) (config : Config Protocol) (event : Event Protocol)
    (holds : DefaultHolds config) :
    DefaultHolds (step platform config event) ↔ ReplacedWell platform config event := by
  cases valid : config.credentials.isValid with
  | false =>
    have same : step platform config event = config := by
      rw [step, valid]
      rfl
    rw [same]
    cases event <;> simp [ReplacedWell, valid, holds]
  | true =>
    have stepped : step platform config event = (result platform config event).getD config := by
      rw [step, valid]
      rfl
    rw [stepped]
    cases event with
    | removeAll answered saved =>
      apply iff_of_true _ trivial
      rw [result]
      split
      · exact Or.inl rfl
      · exact holds
    | remove container answered saved =>
      rw [result, ReplacedWell]
      cases both : answered && saved with
      | false =>
        apply iff_of_true holds
        rintro - rfl rfl
        cases both
      | true =>
        obtain ⟨rfl, rfl⟩ := Bool.and_eq_true_iff.mp both
        by_cases same : config.defaultContainer = container
        · subst same
          simpa [valid] using remove_default_holds_iff config
        · exact iff_of_true (remove_other_holds holds same)
            fun _ _ _ is_same => absurd is_same same
    | scan found processContainerForAdmin saved =>
      rw [ReplacedWell]
      cases found with
      | none => exact iff_of_true holds fun _ _ _ never => nomatch never
      | some found =>
        cases saved with
        | false => exact iff_of_true holds fun _ never => nomatch never
        | true =>
          simpa [result, valid] using scan_saved_iff platform processContainerForAdmin found holds

/-- From a default container that is none or an installed one of the VPN type, the default container
stays so in every state of a run if and only if every container that takes its place is of the
VPN type. -/
theorem default_container_iff (platform : Platform) (config : Config Protocol)
    (holds : DefaultHolds config) (events : List (Event Protocol)) :
    (∀ reached, Runs.Visits (step platform) config events reached → DefaultHolds reached) ↔
      Runs.Guarded (step platform) (ReplacedWell platform) config events :=
  Runs.visits_property_iff (fun _ held => held)
    (fun state event held replaced => (step_holds_iff platform state event held).mpr replaced)
    (fun state event held after => (step_holds_iff platform state event held).mp after)
    config events holds

/-! Servers with OpenVPN: one with WireGuard beside it, one with a file vault. -/

def serverWith (other : DockerContainer) : Config Unit where
  description := ""
  hostName := "192.0.2.1"
  containers container :=
    if container = .openVpn ∨ container = other then some ⟨container, ()⟩ else none
  defaultContainer := .openVpn
  dns1 := ""
  dns2 := ""
  userName := "root"
  password := "secret"
  port := 22

def vaultServer : Config Unit := serverWith .sftp

/-- The default container is removed, then the one in its place, and a scan finds a third. -/
def replacements : List (Event Unit) :=
  [.remove .openVpn true true, .remove .wireGuard true true,
    .scan (some [(.sftp, ⟨.sftp, ()⟩), (.awg, ⟨.awg, ()⟩)]) (fun _ config => some config) true]

theorem default_replaced :
    DefaultHolds (serverWith .wireGuard) ∧
      (∀ reached, Runs.Visits (step .linux) (serverWith .wireGuard) replacements reached →
        DefaultHolds reached) ∧
      (Runs.run (step .linux) (serverWith .wireGuard) replacements).defaultContainer = .awg := by
  have holds : DefaultHolds (serverWith .wireGuard) := Or.inr ⟨rfl, rfl⟩
  refine ⟨holds, (default_container_iff .linux _ holds _).mpr ⟨?_, ?_, ?_, trivial⟩, rfl⟩
  · rintro - - - - next ⟨⟩
    exact Or.inr rfl
  · rintro - - - - next ⟨⟩
  · rintro - - listed ⟨⟩ _ - - next ⟨⟩
    rfl

/-- The VPN container is removed, and the file vault becomes the default container. -/
theorem vault_becomes_default :
    DefaultHolds vaultServer ∧
      (step .linux vaultServer (.remove .openVpn true true)).defaultContainer = .sftp ∧
      containerService .sftp = .other ∧
      ¬ DefaultHolds (step .linux vaultServer (.remove .openVpn true true)) := by
  have chosen : (step .linux vaultServer (.remove .openVpn true true)).defaultContainer = .sftp :=
    rfl
  refine ⟨Or.inr ⟨rfl, rfl⟩, chosen, rfl, ?_⟩
  rintro (none | ⟨-, vpn⟩)
  · cases none
  · cases vpn

end AbstractumVpn.InstallController
