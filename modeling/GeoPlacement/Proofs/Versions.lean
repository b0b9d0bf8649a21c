import GeoPlacement.Cluster.Memory
import Mathlib.Data.Nat.Basic

/-!
# Versions of stored workloads

Every write gives a workload a greater version than the one it replaces, as long as there is room
for one (`Cluster.HasRoom`), so that a version identifies one content of a key for as long as the
cluster runs. This holds whatever the stored versions look like at the start: a version that is
missing or no number counts as zero, and the first write of such a workload gives it the number one.

The invariant is `Workload.Supersedes`: what is stored under a key is what was stored before, or
has a greater version. It is stated for one request (`Cluster.exists_supersedes_respond`) and is
transitive, so it holds along every run.

## Main results

* `readCount?_toString`: a version that was written as a number is read as this number.
* `Cluster.write_cases`: a write is refused and changes nothing, or stores one workload.
* `Cluster.stored_write_cases`: what a write leaves under a key.
* `Workload.Supersedes.eq_of_resourceVersion`: one version, one content.
* `Cluster.exists_supersedes_respond`: every request preserves the invariant.
* `Cluster.VersionsAtMost.respond`: a request raises the stored versions by one at most.
-/

namespace GeoPlacement

/-! ### Versions as text -/

/-- A text of digits is split off as a whole and read as the number that it writes. -/
theorem splitDigits_of_isDigit {cs : List Char} (h : ∀ c ∈ cs, c.isDigit = true) :
    ∃ digits, splitDigits cs = (digits, []) ∧ digits.length = cs.length ∧ ∀ init,
      digits.foldl (fun value d => 10 * value + d.val) init = Nat.ofDigitChars 10 cs init := by
  induction cs with
  | nil => exact ⟨[], rfl, rfl, fun init => Nat.ofDigitChars_nil.symm⟩
  | cons c rest ih =>
      obtain ⟨hc, hrest⟩ := List.forall_mem_cons.mp h
      obtain ⟨digits, hsplit, hlength, hvalue⟩ := ih hrest
      obtain ⟨d, hd, hval⟩ : ∃ d, digit? c = some d ∧ d.val = c.toNat - '0'.toNat := by
        have hrange : '0' ≤ c ∧ c ≤ '9' := by
          simpa [Char.isDigit, Char.le_def] using hc
        exact ⟨_, dif_pos hrange, rfl⟩
      refine ⟨d :: digits, ?_, congrArg (· + 1) hlength, fun init => ?_⟩
      · simp only [splitDigits, hd, hsplit]
      · rw [List.foldl_cons, hvalue, hval, Nat.ofDigitChars_cons]

/-- **Reading back**: a count that was written as a number is read as this number. -/
theorem readCount?_toString {bound n : Nat} (h : n < bound) :
    readCount? bound (toString n) = some n := by
  have hdigits : ∀ c ∈ Nat.toDigits 10 n, c.isDigit = true := fun c hc =>
    Nat.isDigit_of_mem_toDigits (by decide) (by decide) hc
  obtain ⟨digits, hsplit, hlength, hvalue⟩ := splitDigits_of_isDigit hdigits
  have hnumber : natOfDigits digits = n := by
    rw [natOfDigits, hvalue, Nat.ofDigitChars_ten_toDigits]
  have hplus : ∀ rest, Nat.toDigits 10 n ≠ '+' :: rest := fun rest heq => by
    have := hdigits '+' (heq ▸ List.mem_cons_self)
    exact absurd this (by decide)
  rw [readCount?, Nat.toString_eq_ofList_toDigits, String.toList_ofList]
  simp only [hsplit]
  cases digits with
  | nil => exact absurd hlength.symm (Nat.ne_of_gt Nat.length_toDigits_pos)
  | cons d rest => simp only [hnumber, if_pos h]

/-- Before the last number of 64 bits, a sum with one does not wrap around. -/
theorem toNat_add_one {n : UInt64} (h : n.toNat + 1 < UInt64.size) :
    (n + 1).toNat = n.toNat + 1 := by
  rw [UInt64.toNat_add]
  exact Nat.mod_eq_of_lt h

namespace Cluster

/-- A workload has the version under which it is stored. -/
@[simp] theorem versionNumber_stamp (inNamespace : String) (version : UInt64) (w : Workload) :
    versionNumber (stamp inNamespace version w) = version := by
  have hread : readCount? UInt64.size (toString version) = some version.toNat :=
    readCount?_toString version.toNat_lt
  rw [versionNumber, stamp, Option.bind_some, hread, Option.getD_some]
  exact UInt64.ofNat_toNat

/-! ### Writes -/

/-- The cluster after a successful write. -/
def keep (c : Cluster) (key : WorkloadKey) (w : Workload) : Cluster :=
  { c with workloads := c.workloads.insert key w, writes := c.writes + 1 }

/-- What is stored after a successful write. -/
theorem stored_keep (c : Cluster) (key query : WorkloadKey) (w : Workload) :
    (c.keep key w).stored query = if key = query then some w else c.stored query :=
  Table.get?_insert c.workloads key query w

/-- A workload whose writes fail is rejected. -/
theorem write_of_fault {c : Cluster} {inNamespace name : String} {w : Workload}
    {isCreation : Bool} (hname : w.name = some name) (hfault : (w.kind, name) ∈ c.writeFaults) :
    c.write inNamespace w isCreation = (.error (.refused w.kind name .rejected), c) := by
  simp only [write, hname, if_pos hfault]

/-- A workload without a write fault is stored under the version that is due. -/
theorem write_of_nextVersion {c : Cluster} {inNamespace name : String} {w : Workload}
    {isCreation : Bool} {version : UInt64} (hname : w.name = some name)
    (hfault : (w.kind, name) ∉ c.writeFaults)
    (hnext : nextVersion (c.stored ⟨w.kind, inNamespace, name⟩) w isCreation = .ok version) :
    c.write inNamespace w isCreation = (.ok (stamp inNamespace version w),
      c.keep ⟨w.kind, inNamespace, name⟩ (stamp inNamespace version w)) := by
  simp only [write, hname, if_neg hfault, hnext]
  rfl

/-- A workload that may not be stored now is refused, for whatever cause. -/
theorem write_of_nextVersion_error {c : Cluster} {inNamespace name : String} {w : Workload}
    {isCreation : Bool} {cause : Refusal} (hname : w.name = some name)
    (hnext : nextVersion (c.stored ⟨w.kind, inNamespace, name⟩) w isCreation = .error cause) :
    ∃ cause, c.write inNamespace w isCreation = (.error (.refused w.kind name cause), c) := by
  by_cases hfault : (w.kind, name) ∈ c.writeFaults
  · exact ⟨.rejected, write_of_fault hname hfault⟩
  · exact ⟨cause, by simp only [write, hname, if_neg hfault, hnext]⟩

/-- **What a write does**: it is refused and leaves the cluster as it is, or it stores the
workload under the next version. -/
theorem write_cases (c : Cluster) (inNamespace : String) (w : Workload) (isCreation : Bool) :
    (∃ error, c.write inNamespace w isCreation = (.error error, c)) ∨
      ∃ name version, w.name = some name ∧
        nextVersion (c.stored ⟨w.kind, inNamespace, name⟩) w isCreation = .ok version ∧
        c.write inNamespace w isCreation = (.ok (stamp inNamespace version w),
          c.keep ⟨w.kind, inNamespace, name⟩ (stamp inNamespace version w)) := by
  cases hname : w.name with
  | none => exact Or.inl ⟨.missingName, by simp only [write, hname]⟩
  | some name =>
      by_cases hfault : (w.kind, name) ∈ c.writeFaults
      · exact Or.inl ⟨_, write_of_fault hname hfault⟩
      · cases hnext : nextVersion (c.stored ⟨w.kind, inNamespace, name⟩) w isCreation with
        | error cause =>
            obtain ⟨cause, hrefused⟩ := write_of_nextVersion_error hname hnext
            exact Or.inl ⟨_, hrefused⟩
        | ok version =>
            exact Or.inr ⟨name, version, rfl, hnext, write_of_nextVersion hname hfault hnext⟩

/-- The version under which a workload is stored, inverted: it creates what is not there or
replaces what is there by its successor. -/
theorem nextVersion_ok {current : Option Workload} {w : Workload} {isCreation : Bool}
    {version : UInt64} (h : nextVersion current w isCreation = .ok version) :
    current = none ∧ isCreation = true ∧ version = 1 ∨
      ∃ old, current = some old ∧ isCreation = false ∧
        old.metadata.resourceVersion = w.metadata.resourceVersion ∧
        version = versionNumber old + 1 := by
  rcases current with _ | old <;> rcases isCreation with _ | _
  · cases h
  · exact Or.inl ⟨rfl, rfl, (Except.ok.inj h).symm⟩
  · rw [nextVersion] at h
    split at h
    · next heq => exact Or.inr ⟨old, rfl, rfl, heq, (Except.ok.inj h).symm⟩
    · cases h
  · cases h

/-- The version under which a workload is stored next, by what is stored now. -/
def versionAfter (found : Option Workload) : UInt64 :=
  found.elim 1 fun current => versionNumber current + 1

/-- What may be stored is stored under the next version, whether it is created or replaced. -/
theorem eq_versionAfter_of_nextVersion {current : Option Workload} {w : Workload}
    {isCreation : Bool} {version : UInt64} (h : nextVersion current w isCreation = .ok version) :
    version = versionAfter current := by
  obtain ⟨rfl, -, rfl⟩ | ⟨old, rfl, -, -, rfl⟩ := nextVersion_ok h <;> rfl

/-- **What a write leaves under a key**: what was there, or the object under the next version. -/
theorem stored_write_cases (c : Cluster) (inNamespace : String) (object : Workload)
    (isCreation : Bool) (key : WorkloadKey) :
    (c.write inNamespace object isCreation).2.stored key = c.stored key ∨
      ∃ name version, object.name = some name ∧ key = ⟨object.kind, inNamespace, name⟩ ∧
        nextVersion (c.stored key) object isCreation = .ok version ∧
        (c.write inNamespace object isCreation).2.stored key =
          some (stamp inNamespace version object) := by
  rcases c.write_cases inNamespace object isCreation with
    ⟨error, hwrite⟩ | ⟨name, version, hname, hnext, hwrite⟩
  · rw [hwrite]
    exact Or.inl rfl
  · rw [hwrite]
    simp only [stored_keep]
    by_cases hkey : (⟨object.kind, inNamespace, name⟩ : WorkloadKey) = key
    · exact Or.inr ⟨name, version, hname, hkey.symm, hkey ▸ hnext, if_pos hkey⟩
    · exact Or.inl (if_neg hkey)

end Cluster

/-! ### One version, one content -/

/-- A workload **supersedes** another if it is the same or has a greater version. -/
def Workload.Supersedes (now old : Workload) : Prop :=
  now = old ∨ Cluster.versionNumber old < Cluster.versionNumber now

namespace Workload.Supersedes

theorem refl (w : Workload) : w.Supersedes w :=
  Or.inl rfl

/-- What supersedes what supersedes a workload supersedes it too. -/
theorem trans {a b c : Workload} (hab : a.Supersedes b) (hbc : b.Supersedes c) :
    a.Supersedes c := by
  rcases hab with rfl | hab
  · exact hbc
  · rcases hbc with rfl | hbc
    · exact Or.inr hab
    · exact Or.inr (UInt64.lt_trans hbc hab)

/-- **One version, one content**: what supersedes a workload under the same version is that
workload. -/
theorem eq_of_resourceVersion {now old : Workload} (h : now.Supersedes old)
    (hversion : now.metadata.resourceVersion = old.metadata.resourceVersion) : now = old := by
  rcases h with rfl | hlt
  · rfl
  · rw [Cluster.versionNumber, Cluster.versionNumber, hversion] at hlt
    exact absurd hlt (UInt64.lt_irrefl _)

/-- What was superseded by another workload does not come back. -/
theorem ne_of_ne {now mid old : Workload} (h : now.Supersedes mid) (hmid : mid.Supersedes old)
    (hne : mid ≠ old) : now ≠ old := by
  have hlt := hmid.resolve_left hne
  rintro rfl
  rcases h with rfl | h
  · exact UInt64.lt_irrefl _ hlt
  · exact UInt64.lt_asymm h hlt

end Workload.Supersedes

namespace Cluster

/-- Whether every stored version may be followed by another one. -/
def HasRoom (c : Cluster) : Prop :=
  ∀ key w, c.stored key = some w → (versionNumber w).toNat < UInt64.size - 1

/-- Writing a status changes nothing but the statuses. -/
theorem exists_writeStatus (c : Cluster) (o : SelectiveDeployment) (s : Status) :
    ∃ statuses, (c.writeStatus o s).2 = { c with statuses } := by
  rw [writeStatus]
  split
  · exact ⟨c.statuses, rfl⟩
  · exact ⟨_, rfl⟩

/-- Writing a status changes no stored workload. -/
theorem stored_writeStatus (c : Cluster) (o : SelectiveDeployment) (s : Status)
    (key : WorkloadKey) : (c.writeStatus o s).2.stored key = c.stored key := by
  obtain ⟨statuses, h⟩ := c.exists_writeStatus o s
  rw [h]
  rfl

/-- A write leaves a workload as it is or stores one that supersedes it. -/
theorem exists_supersedes_write {c : Cluster} (hroom : c.HasRoom) (inNamespace : String)
    (object : Workload) (isCreation : Bool) {key : WorkloadKey} {w : Workload}
    (hw : c.stored key = some w) :
    ∃ now, (c.write inNamespace object isCreation).2.stored key = some now ∧
      now.Supersedes w := by
  rcases c.stored_write_cases inNamespace object isCreation key with
    hsame | ⟨name, version, -, -, hnext, hstored⟩
  · exact ⟨w, hsame.trans hw, .refl w⟩
  · rw [hw] at hnext
    obtain ⟨hnone, -⟩ | ⟨old, hold, -, -, rfl⟩ := nextVersion_ok hnext
    · cases hnone
    · obtain rfl := Option.some.inj hold
      have hlt := hroom key w hw
      refine ⟨_, hstored, Or.inr ?_⟩
      rw [versionNumber_stamp, UInt64.lt_iff_toNat_lt, toNat_add_one (by omega)]
      exact Nat.lt_succ_self _

/-- **Every request preserves the invariant**: what was stored before is there still, or
something that supersedes it. -/
theorem exists_supersedes_respond {c : Cluster} (hroom : c.HasRoom) (request : Request)
    {key : WorkloadKey} {w : Workload} (hw : c.stored key = some w) :
    ∃ now, (c.respond request).2.stored key = some now ∧ now.Supersedes w := by
  cases request with
  | get kind inNamespace name => exact ⟨w, hw, .refl w⟩
  | create inNamespace object => exact exists_supersedes_write hroom inNamespace object true hw
  | replace inNamespace object => exact exists_supersedes_write hroom inNamespace object false hw
  | setStatus object status => exact ⟨w, (stored_writeStatus ..).trans hw, .refl w⟩

/-! ### Room for a run -/

/-- Whether no stored version exceeds a bound. -/
def VersionsAtMost (c : Cluster) (bound : Nat) : Prop :=
  ∀ key w, c.stored key = some w → (versionNumber w).toNat ≤ bound

variable {c : Cluster} {bound : Nat}

/-- A bound may be raised. -/
theorem VersionsAtMost.mono (h : c.VersionsAtMost bound) {other : Nat} (hle : bound ≤ other) :
    c.VersionsAtMost other :=
  fun key w hw => Nat.le_trans (h key w hw) hle

/-- There is room for the next version below the last one. -/
theorem VersionsAtMost.hasRoom (h : c.VersionsAtMost bound) (hbound : bound + 1 < UInt64.size) :
    c.HasRoom := by
  intro key w hw
  have hle := h key w hw
  omega

/-- Where there is room, each version has a next one. -/
theorem HasRoom.versionAfter_ne_zero (h : c.HasRoom) (key : WorkloadKey) :
    versionAfter (c.stored key) ≠ 0 := by
  cases hstored : c.stored key with
  | none => decide
  | some current =>
      have hlt := h key current hstored
      have hsum : (versionAfter (some current)).toNat = (versionNumber current).toNat + 1 :=
        toNat_add_one (by omega)
      intro hzero
      rw [hzero] at hsum
      cases hsum

/-- The next version exceeds a bound on the stored ones by one at most. -/
theorem VersionsAtMost.toNat_versionAfter_le (h : c.VersionsAtMost bound)
    (hbound : bound + 1 < UInt64.size) (key : WorkloadKey) :
    (versionAfter (c.stored key)).toNat ≤ bound + 1 := by
  cases hstored : c.stored key with
  | none => exact Nat.le_add_left 1 bound
  | some current =>
      have hle := h key current hstored
      have hsum : (versionAfter (some current)).toNat = (versionNumber current).toNat + 1 :=
        toNat_add_one (by omega)
      omega

/-- So a workload that is kept under the next version raises the bound by one at most. -/
theorem VersionsAtMost.keep (h : c.VersionsAtMost bound) (hbound : bound + 1 < UInt64.size)
    {key : WorkloadKey} {w : Workload} (hversion : versionNumber w = versionAfter (c.stored key)) :
    (c.keep key w).VersionsAtMost (bound + 1) := by
  intro query stored hstored
  rw [stored_keep] at hstored
  split at hstored
  · obtain rfl := Option.some.inj hstored
    rw [hversion]
    exact h.toNat_versionAfter_le hbound key
  · exact Nat.le_succ_of_le (h query stored hstored)

/-- A request raises the stored versions by one at most. -/
theorem VersionsAtMost.respond (h : c.VersionsAtMost bound) (hbound : bound + 1 < UInt64.size)
    (request : Request) : (c.respond request).2.VersionsAtMost (bound + 1) := by
  have hwrite : ∀ inNamespace object isCreation,
      (c.write inNamespace object isCreation).2.VersionsAtMost (bound + 1) := by
    intro inNamespace object isCreation
    rcases c.write_cases inNamespace object isCreation with
      ⟨error, hrefused⟩ | ⟨name, version, -, hnext, hkept⟩
    · rw [hrefused]
      exact h.mono (Nat.le_succ bound)
    · rw [hkept]
      exact h.keep hbound ((versionNumber_stamp ..).trans (eq_versionAfter_of_nextVersion hnext))
  cases request with
  | get kind inNamespace name => exact h.mono (Nat.le_succ bound)
  | create inNamespace object => exact hwrite inNamespace object true
  | replace inNamespace object => exact hwrite inNamespace object false
  | setStatus object status =>
      intro key w hw
      exact Nat.le_succ_of_le (h key w ((stored_writeStatus ..).symm.trans hw))

end Cluster

end GeoPlacement
