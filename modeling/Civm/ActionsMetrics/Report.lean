import Civm.Common.Validate
import Civm.Foundation.Tally
import Mathlib.Algebra.BigOperators.Ring.Finset
import Mathlib.Data.List.Nodup

/-! # The minutes of a fleet

`actionsmetrics.Collect`: the usage items of the billing interface, summed up for
each kind of runner and for each repository. The sums are machine integers of 64
bits. Quantities are whole numbers here. -/

namespace Civm.ActionsMetrics

open Common (Error validateRepo)

structure UsageItem where
  product : String
  sku : String
  quantity : Nat
  unitType : String
  repositoryName : String

structure SKUTotal where
  sku : String
  minutes : Int
  storage : Nat
  unitType : String

structure RepoMetric where
  repo : String
  hostedMinutes : Int
  runsTotal : Int
  runsInPeriod : Int
  storageGBHours : Int

structure Report where
  totalMinutes : Int
  totalRuns : Int
  bySKU : List SKUTotal
  byRepo : List RepoMetric
  exit : Int

/-! ## Machine integers -/

def wrap (value : Int) : Int := value.bmod (2 ^ 64)

/-- The conversion of a floating-point number, as an amd64 processor makes it. -/
def toInt64 (quantity : Nat) : Int := if quantity < 2 ^ 63 then quantity else -2 ^ 63

theorem wrap_of_small {value : Int} (nonnegative : 0 ≤ value) (small : value < 2 ^ 63) :
    wrap value = value := by
  unfold wrap
  rw [Int.bmod_def]
  omega

/-! ## The sums -/

structure Sums where
  skuTotals : List (String × SKUTotal) := []
  totalMinutes : Int := 0
  repoMinutes : List (String × Int) := []
  repoStorageX1000 : List (String × Int) := []

def addTo (name : String) (amount : Int) (entries : List (String × Int)) : List (String × Int) :=
  if name ≠ "" then Tally.update name 0 (fun value => wrap (value + amount)) entries else entries

def freshSKU (item : UsageItem) : SKUTotal :=
  { sku := item.sku, minutes := 0, storage := 0, unitType := item.unitType }

/-- One round of the loop of `aggregateSKUs`. -/
def count (sums : Sums) (item : UsageItem) : Sums :=
  if item.product ≠ "actions" then sums
  else
    let forSKU := fun change => Tally.update item.sku (freshSKU item) change sums.skuTotals
    if item.unitType = "Minutes" then
      let minutes := toInt64 item.quantity
      { sums with
        skuTotals := forSKU fun total => { total with minutes := wrap (total.minutes + minutes) }
        totalMinutes := wrap (sums.totalMinutes + minutes)
        repoMinutes := addTo item.repositoryName minutes sums.repoMinutes }
    else if item.unitType = "GigabyteHours" then
      { sums with
        skuTotals := forSKU fun total => { total with storage := total.storage + item.quantity }
        repoStorageX1000 :=
          addTo item.repositoryName (toInt64 (item.quantity * 1000)) sums.repoStorageX1000 }
    else { sums with skuTotals := forSKU id }

def aggregateSKUs (usage : List UsageItem) : Sums := usage.foldl count {}

/-- The part behind the owner. -/
def repoName (repo : String) : String :=
  match Text.cut '/' repo.toList with
  | some (_, name) => String.ofList name
  | none => repo

def repoMetric (sums : Sums) (runs : String → Int) (repo : String) : RepoMetric :=
  { repo := repo
    hostedMinutes := Tally.get (repoName repo) 0 sums.repoMinutes
    runsTotal := runs repo
    runsInPeriod := runs repo
    storageGBHours := Tally.get (repoName repo) 0 sums.repoStorageX1000 }

def assembleByRepo (organization : String) (repos : List String) (runs : String → Int)
    (sums : Sums) : List RepoMetric :=
  if repos = [] then
    sums.repoMinutes.map fun entry =>
      { repo := organization ++ "/" ++ entry.1
        hostedMinutes := entry.2
        runsTotal := 0
        runsInPeriod := 0
        storageGBHours := Tally.get entry.1 0 sums.repoStorageX1000 }
  else repos.map (repoMetric sums runs)

def validateRepos (repos : List String) : Option Error := repos.findSome? validateRepo

/-- `Collect` for a list of repositories that has been accepted. `usage` is the answer of
the billing interface and `counts` that to each count of runs. -/
def collect (organization : String) (repos : List String) (usage : Option (List UsageItem))
    (counts : String → Option Int) : Report :=
  let sums := aggregateSKUs (usage.getD [])
  let runs := fun repo => (counts repo).getD 0
  let failed := usage.isNone || repos.any fun repo => (counts repo).isNone
  { totalMinutes := sums.totalMinutes
    totalRuns := repos.foldl (fun total repo => wrap (total + runs repo)) 0
    bySKU := (sums.skuTotals.map Prod.snd).mergeSort fun first second =>
      second.minutes ≤ first.minutes
    byRepo := (assembleByRepo organization repos runs sums).mergeSort fun first second =>
      second.hostedMinutes ≤ first.hostedMinutes
    exit := if failed then 1 else 0 }

/-- No minutes are lost among the kinds of runners, and none made among the repositories. -/
def Report.Conserved (report : Report) : Prop :=
  (report.byRepo.map RepoMetric.hostedMinutes).sum ≤ report.totalMinutes ∧
    report.totalMinutes = (report.bySKU.map SKUTotal.minutes).sum

/-! ## The minutes of the items -/

def minutesOf (item : UsageItem) : Nat :=
  if item.product = "actions" ∧ item.unitType = "Minutes" then item.quantity else 0

def minutes (usage : List UsageItem) : Nat := (usage.map minutesOf).sum

def minutesFor (name : String) (usage : List UsageItem) : Nat :=
  minutes (usage.filter fun item => item.repositoryName = name)

/-- The minutes of all items fit into a machine integer. -/
def Fits (usage : List UsageItem) : Prop := minutes usage < 2 ^ 63

/-- What the sums are after a list of items. -/
structure Tallied (usage : List UsageItem) (sums : Sums) : Prop where
  total : sums.totalMinutes = minutes usage
  skus : Tally.total SKUTotal.minutes sums.skuTotals = minutes usage
  skusNonnegative : ∀ entry ∈ sums.skuTotals, 0 ≤ entry.2.minutes
  repo : ∀ name ≠ "", Tally.get name 0 sums.repoMinutes = minutesFor name usage
  repos : Tally.total id sums.repoMinutes ≤ minutes usage
  reposNonnegative : ∀ entry ∈ sums.repoMinutes, 0 ≤ entry.2

theorem minutes_append (usage : List UsageItem) (item : UsageItem) :
    minutes (usage ++ [item]) = minutes usage + minutesOf item := by
  simp [minutes]

theorem minutesFor_append (name : String) (usage : List UsageItem) (item : UsageItem) :
    minutesFor name (usage ++ [item]) =
      minutesFor name usage + if item.repositoryName = name then minutesOf item else 0 := by
  by_cases same : item.repositoryName = name
  · simp [minutesFor, minutes, same]
  · simp [minutesFor, minutes, same]

theorem minutesFor_single (name : String) (item : UsageItem) :
    minutesFor name [item] = if item.repositoryName = name then minutesOf item else 0 := by
  simpa [minutesFor, minutes] using minutesFor_append name [] item

/-! ## One item -/

section

variable {usage : List UsageItem} {sums : Sums} {item : UsageItem}

theorem Tallied.update_skus (tallied : Tallied usage sums) (sku : String) (fresh : SKUTotal)
    (change : SKUTotal → SKUTotal) (amount : Nat) (empty : fresh.minutes = 0)
    (changed : (change (Tally.get sku fresh sums.skuTotals)).minutes =
      (Tally.get sku fresh sums.skuTotals).minutes + amount) :
    Tally.total SKUTotal.minutes (Tally.update sku fresh change sums.skuTotals) =
        minutes usage + amount ∧
      ∀ entry ∈ Tally.update sku fresh change sums.skuTotals, 0 ≤ entry.2.minutes := by
  constructor
  · rw [Tally.total_update empty changed, tallied.skus]
  · intro entry member
    rcases Tally.mem_update member with old | equal
    · exact tallied.skusNonnegative entry old
    · have before := (@Tally.measure_get_le_total _ _ _ sku fresh _ SKUTotal.minutes empty
        tallied.skusNonnegative).1
      rw [equal, changed]
      omega

theorem Tallied.idle (tallied : Tallied usage sums) (none : minutesOf item = 0)
    {skuTotals : List (String × SKUTotal)} {storage : List (String × Int)}
    (skus : Tally.total SKUTotal.minutes skuTotals = minutes usage)
    (skusNonnegative : ∀ entry ∈ skuTotals, 0 ≤ entry.2.minutes) :
    Tallied (usage ++ [item])
      { sums with skuTotals := skuTotals, repoStorageX1000 := storage } := by
  have same : minutes (usage ++ [item]) = minutes usage := by simp [minutes_append, none]
  constructor
  · rw [same]
    exact tallied.total
  · rw [same]
    exact skus
  · exact skusNonnegative
  · intro name named
    rw [tallied.repo name named, minutesFor_append, none]
    simp
  · rw [same]
    exact tallied.repos
  · exact tallied.reposNonnegative

theorem Tallied.addTo (tallied : Tallied usage sums) (amount : Nat)
    (fits : minutes usage + amount < 2 ^ 63) (name : String) :
    (∀ other ≠ "", Tally.get other 0 (addTo name amount sums.repoMinutes) =
        minutesFor other usage + if name = other then amount else 0) ∧
      Tally.total id (ActionsMetrics.addTo name amount sums.repoMinutes) ≤
        minutes usage + amount ∧
      ∀ entry ∈ ActionsMetrics.addTo name amount sums.repoMinutes, 0 ≤ entry.2 := by
  have bounded := @Tally.measure_get_le_total _ _ _ name 0 _ id rfl tallied.reposNonnegative
  have below := tallied.repos
  simp only [id] at bounded
  have kept : wrap (Tally.get name 0 sums.repoMinutes + amount) =
    Tally.get name 0 sums.repoMinutes + amount := wrap_of_small (by omega) (by omega)
  unfold ActionsMetrics.addTo
  split
  · rename_i named
    constructor
    · intro other otherNamed
      rw [Tally.get_update]
      split
      · rename_i same
        rw [kept, same, tallied.repo other otherNamed]
      · simp [tallied.repo other otherNamed]
    · constructor
      · rw [@Tally.total_update _ _ _ name 0 (fun value => wrap (value + amount)) sums.repoMinutes
          id amount rfl kept]
        omega
      · intro entry member
        rcases Tally.mem_update member with old | equal
        · exact tallied.reposNonnegative entry old
        · rw [equal, kept]
          omega
  · rename_i unnamed
    constructor
    · intro other otherNamed
      have different : name ≠ other := fun same => unnamed (same ▸ otherNamed)
      simp [tallied.repo other otherNamed, different]
    · exact ⟨by omega, tallied.reposNonnegative⟩

theorem Tallied.count (tallied : Tallied usage sums) (fits : Fits (usage ++ [item])) :
    Tallied (usage ++ [item]) (count sums item) := by
  have total := minutes_append usage item
  unfold Fits at fits
  unfold ActionsMetrics.count
  split
  · rename_i other
    exact tallied.idle (by simp [minutesOf, other]) tallied.skus tallied.skusNonnegative
  · rename_i actions
    rw [not_not] at actions
    dsimp only
    split
    · rename_i timed
      have amount : minutesOf item = item.quantity := by simp [minutesOf, actions, timed]
      rw [amount] at total
      have exact : toInt64 item.quantity = item.quantity := if_pos (by omega)
      have bounded := (@Tally.measure_get_le_total _ _ _ item.sku (freshSKU item) _
        SKUTotal.minutes rfl tallied.skusNonnegative)
      rw [tallied.skus] at bounded
      have added : wrap ((Tally.get item.sku (freshSKU item) sums.skuTotals).minutes +
        item.quantity) =
          (Tally.get item.sku (freshSKU item) sums.skuTotals).minutes + item.quantity :=
        wrap_of_small (by omega) (by omega)
      rcases tallied.update_skus item.sku (freshSKU item)
        (fun total => { total with minutes := wrap (total.minutes + item.quantity) })
        item.quantity rfl added with ⟨skus, skusNonnegative⟩
      rcases tallied.addTo item.quantity (by omega) item.repositoryName with
        ⟨repo, repos, reposNonnegative⟩
      rw [exact]
      constructor
      · have summed : wrap (minutes usage + item.quantity) = minutes usage + item.quantity :=
          wrap_of_small (by omega) (by omega)
        simp only [total, tallied.total, summed, Nat.cast_add]
      · rw [total, skus]
        simp
      · exact skusNonnegative
      · intro name named
        rw [repo name named, minutesFor_append, amount]
        simp
      · rw [total]
        simpa using repos
      · exact reposNonnegative
    · rename_i untimed
      have none : minutesOf item = 0 := by simp [minutesOf, untimed]
      split
      · rcases tallied.update_skus item.sku (freshSKU item)
          (fun total => { total with storage := total.storage + item.quantity }) 0 rfl (by simp)
          with ⟨skus, skusNonnegative⟩
        exact tallied.idle none (by simpa using skus) skusNonnegative
      · rcases tallied.update_skus item.sku (freshSKU item) id 0 rfl (by simp)
          with ⟨skus, skusNonnegative⟩
        exact tallied.idle none (by simpa using skus) skusNonnegative

theorem tallied_aggregateSKUs {usage : List UsageItem} (fits : Fits usage) :
    Tallied usage (aggregateSKUs usage) := by
  induction usage using List.reverseRecOn with
  | nil =>
    constructor <;> simp [aggregateSKUs, minutes, minutesFor, Tally.total, Tally.get]
  | append_singleton usage item induction =>
    have earlier : Fits usage := by
      have total := minutes_append usage item
      unfold Fits at fits ⊢
      omega
    have step := (induction earlier).count fits
    simpa [aggregateSKUs] using step

/-! ## The minutes of the repositories -/

theorem sum_single (names : List String) (repository : String) (amount : Nat) :
    (names.map fun name => if repository = name then amount else 0).sum =
      names.count repository * amount := by
  induction names with
  | nil => simp
  | cons name rest induction =>
    by_cases same : repository = name
    · rw [List.map_cons, List.sum_cons, induction, same, if_pos rfl, List.count_cons_self,
        Nat.add_one_mul, Nat.add_comm]
    · rw [List.map_cons, List.sum_cons, induction, if_neg same,
        List.count_cons_of_ne (Ne.symm same), zero_add]

theorem sum_minutesFor_le {names : List String} (distinct : names.Nodup)
    (usage : List UsageItem) :
    (names.map fun name => minutesFor name usage).sum ≤ minutes usage := by
  induction usage using List.reverseRecOn with
  | nil => simp [minutesFor, minutes]
  | append_singleton usage item induction =>
    have once : names.count item.repositoryName * minutesOf item ≤ 1 * minutesOf item :=
      Nat.mul_le_mul_right _ (List.nodup_iff_count_le_one.mp distinct _)
    simp only [minutesFor_append, List.sum_map_add, sum_single, minutes_append]
    omega

theorem repoName_ne_empty {repos : List String} (accepted : validateRepos repos = none)
    {repo : String} (member : repo ∈ repos) : repoName repo ≠ "" := by
  have checked : validateRepo repo = none := List.findSome?_eq_none_iff.mp accepted repo member
  unfold Common.validateRepo at checked
  dsimp only at checked
  split at checked
  · rename_i first owner name split
    split at checked
    · rename_i matched
      simp only [Bool.and_eq_true, decide_eq_true_eq] at matched
      have nonempty : name ≠ [] := List.ne_nil_of_length_pos (by omega)
      intro empty
      rw [repoName, split] at empty
      exact nonempty (by simpa using congrArg String.toList empty)
    · cases checked
  · cases checked

section

variable (organization : String) (counts : String → Option Int) (usage : List UsageItem)

theorem sum_bySKU (repos : List String) :
    ((collect organization repos (some usage) counts).bySKU.map SKUTotal.minutes).sum =
      Tally.total SKUTotal.minutes (aggregateSKUs usage).skuTotals := by
  have sorted := (List.mergeSort_perm ((aggregateSKUs usage).skuTotals.map Prod.snd)
    fun first second => decide (second.minutes ≤ first.minutes)).map SKUTotal.minutes
  exact sorted.sum_eq.trans (by simp [Tally.total, Function.comp_def])

theorem totalMinutes_collect (repos : List String) :
    (collect organization repos (some usage) counts).totalMinutes =
      (aggregateSKUs usage).totalMinutes := rfl

theorem sum_byRepo (repos : List String) :
    ((collect organization repos (some usage) counts).byRepo.map RepoMetric.hostedMinutes).sum =
      ((assembleByRepo organization repos (fun repo => (counts repo).getD 0)
        (aggregateSKUs usage)).map RepoMetric.hostedMinutes).sum :=
  ((List.mergeSort_perm _ _).map RepoMetric.hostedMinutes).sum_eq

theorem sum_enumerated {repos : List String} (accepted : validateRepos repos = none)
    (enumerated : repos ≠ []) (fits : Fits usage) :
    ((collect organization repos (some usage) counts).byRepo.map RepoMetric.hostedMinutes).sum =
      (((repos.map repoName).map fun name => minutesFor name usage).sum : Nat) := by
  have each : ∀ repo ∈ repos,
    (repoMetric (aggregateSKUs usage) (fun repo => (counts repo).getD 0) repo).hostedMinutes =
      (minutesFor (repoName repo) usage : Int) := fun repo member =>
    (tallied_aggregateSKUs fits).repo _ (repoName_ne_empty accepted member)
  rw [sum_byRepo, assembleByRepo, if_neg enumerated, List.map_map, Nat.cast_list_sum,
    List.map_map, List.map_map]
  exact congrArg List.sum (List.map_congr_left each)

theorem sum_billed :
    ((collect organization [] (some usage) counts).byRepo.map RepoMetric.hostedMinutes).sum =
      Tally.total id (aggregateSKUs usage).repoMinutes := by
  rw [sum_byRepo, assembleByRepo, if_pos rfl, List.map_map]
  rfl

end

/-- The minutes of every usage are conserved exactly if no two repositories have the same
name behind their owners. -/
theorem minutes_conserved_iff (organization : String) (repos : List String)
    (accepted : validateRepos repos = none) (distinct : repos.Nodup) :
    (∀ usage counts, Fits usage → (collect organization repos (some usage) counts).Conserved) ↔
      (repos.map repoName).Nodup := by
  constructor
  · intro conserved
    rw [List.nodup_iff_count_le_one]
    intro name
    by_contra twice
    have enumerated : repos ≠ [] := by
      intro empty
      simp [empty] at twice
    -- one minute of a repository that two entries of the list are named like
    let item : UsageItem :=
      { product := "actions", sku := "", quantity := 1, unitType := "Minutes"
        repositoryName := name }
    have worth : minutesOf item = 1 := by simp [minutesOf, item]
    have one : minutes [item] = 1 := by simp [minutes, worth]
    have fits : Fits [item] := by simp [Fits, one]
    have exceeded := (conserved [item] (fun _ => none) fits).1
    rw [sum_enumerated organization (fun _ => none) [item] accepted enumerated fits,
      totalMinutes_collect, (tallied_aggregateSKUs fits).total, one] at exceeded
    have single : ∀ other, minutesFor other [item] = if name = other then 1 else 0 := by
      intro other
      rw [minutesFor_single, worth]
    simp only [single, sum_single] at exceeded
    omega
  · intro names usage counts fits
    have tallied := tallied_aggregateSKUs fits
    have total : (collect organization repos (some usage) counts).totalMinutes = minutes usage := by
      rw [totalMinutes_collect, tallied.total]
    constructor
    · by_cases enumerated : repos = []
      · subst enumerated
        rw [sum_billed, total]
        exact tallied.repos
      · rw [sum_enumerated organization counts usage accepted enumerated fits, total]
        exact_mod_cast sum_minutesFor_le names usage
    · rw [total, sum_bySKU, tallied.skus]

theorem different_names_are_conserved :
    (collect "acme" ["acme/api", "beta/app"]
      (some [⟨"actions", "Linux", 7, "Minutes", "app"⟩]) fun _ => some 1).Conserved :=
  (minutes_conserved_iff "acme" ["acme/api", "beta/app"] (by decide +kernel) (by decide)).mpr
    (by decide +kernel) _ _ (by simp [Fits, minutes, minutesOf])

/-- The minutes of one repository are reported for both owners of its name. -/
theorem shared_name_is_counted_twice :
    validateRepos ["acme/app", "beta/app"] = none ∧ ["acme/app", "beta/app"].Nodup ∧
      ¬(collect "acme" ["acme/app", "beta/app"]
        (some [⟨"actions", "Linux", 7, "Minutes", "app"⟩]) fun _ => some 1).Conserved := by
  apply And.intro (by decide +kernel)
  apply And.intro (by decide)
  intro conserved
  have exceeded := conserved.1
  rw [sum_byRepo, totalMinutes_collect] at exceeded
  exact absurd exceeded (by decide +kernel)

end

end Civm.ActionsMetrics
