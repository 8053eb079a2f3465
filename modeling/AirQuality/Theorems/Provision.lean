import AirQuality.Lib.History
import AirQuality.Simulator.Provision

/-!
# Whose key the volume has

ChirpStack keeps the first key that is posted for a device; the simulator draws keys anew in every attempt until some are saved, and
again where a save was cut off or a load read nothing. So a key is saved that is not ChirpStack's exactly where one was left behind:
an attempt ended unsaved after the device's key had been posted, or saved over credentials that it had not read (`provisioned_keys`).
From then on it is so for good.
-/

namespace AirQuality

open Program

/-! ## What an attempt does about one device -/

section

variable (keys : KeySource) (existing : CredStore) (start : Nat) (d : String)

/-- A key that an attempt may post for the device: the saved one, or else one that the attempt has drawn. -/
def Fits (n : Nat) (k : String) : Prop :=
  match existing d with
  | some c => k = c.appKey
  | none => ∃ i, start ≤ i ∧ i < n ∧ k = keys.1 i

/-- A key is posted for the device once, and it fits. The ghost state is the key the attempt has posted. -/
def MayCall (n : Nat) (posted : Option String) : ChirpCall → Prop
  | .postKeys devEui nwkKey => devEui = d → posted = none ∧ Fits keys existing start d n nwkKey
  | _ => True

def afterCall (posted : Option String) : ChirpCall → Option String
  | .postKeys devEui nwkKey => if devEui = d then some nwkKey else posted
  | _ => posted

/-- What the devices pushed so far say of the device: the key posted, which fits, with the saved credentials if there are some. -/
structure Pushed (n : Nat) (posted : Option String) (devices : List (String × RootKeys)) : Prop where
  key : (credStore devices d).map RootKeys.appKey = posted
  saved : ∀ c, existing d = some c → ∀ c' ∈ credStore devices d, c' = c
  fits : ∀ k ∈ posted, Fits keys existing start d n k

/-- A program that an attempt runs, up to the devices it returns: among them the device, if it is a fixture's. -/
abbrev Attempt (ids : List String) (p : Chirp (List (String × RootKeys))) (n : Nat) (posted : Option String) : Prop :=
  Wp keys.1 (MayCall keys existing start d) (afterCall d)
    (fun n posted devices => Pushed keys existing start d n posted devices ∧ (posted ≠ none ↔ d ∈ ids)) p n posted

variable {keys existing start d}

theorem Fits.mono {n n' : Nat} {k : String} (h : Fits keys existing start d n k) (hn : n ≤ n') : Fits keys existing start d n' k := by
  unfold Fits at h ⊢
  cases hd : existing d with
  | some c =>
    rw [hd] at h
    exact h
  | none =>
    rw [hd] at h
    obtain ⟨i, hstart, hi, hk⟩ := h
    exact ⟨i, hstart, Nat.lt_of_lt_of_le hi hn, hk⟩

theorem credStore_concat (devices : List (String × RootKeys)) (p : String × RootKeys) :
    credStore (devices ++ [p]) = Function.update (credStore devices) p.1 (some p.2) := by
  rw [credStore, List.foldl_append]
  rfl

/-- The credentials of a device are the saved ones, or else have a key that is drawn for them. -/
theorem wp_credsOf {Q : Nat → Option String → RootKeys → Prop} {deviceId : String} {n : Nat} {posted : Option String}
    (hsaved : ∀ c, existing deviceId = some c → Q n posted c)
    (hdrawn : existing deviceId = none → Q (n + 1) posted { joinEui := joinEUI, appKey := keys.1 n }) :
    Wp keys.1 (MayCall keys existing start d) (afterCall d) Q (credsOf existing deviceId) n posted := by
  unfold credsOf
  cases hd : existing deviceId with
  | some c => exact wp_pure (hsaved c hd)
  | none =>
    unfold genCreds
    exact wp_bind (wp_sample (wp_pure (hdrawn hd)))

/-- What is not a post of a key is no matter. -/
theorem wp_findOrCreate {Q : Nat → Option String → Option String → Prop} {list create : ChirpCall} {name : String} {n : Nat}
    {posted : Option String} (hlist : ∀ devEui nwkKey, list ≠ .postKeys devEui nwkKey)
    (hcreate : ∀ devEui nwkKey, create ≠ .postKeys devEui nwkKey) (hQ : ∀ id, Q n posted id) :
    Wp keys.1 (MayCall keys existing start d) (afterCall d) Q (findOrCreate list create name) n posted := by
  have hmay : ∀ c : ChirpCall, (∀ devEui nwkKey, c ≠ .postKeys devEui nwkKey) →
      MayCall keys existing start d n posted c ∧ afterCall d posted c = posted := by
    intro c hc
    cases c with
    | postKeys devEui nwkKey => exact absurd rfl (hc devEui nwkKey)
    | _ => exact ⟨trivial, rfl⟩
  unfold findOrCreate
  refine wp_bind (wp_perform (hmay list hlist).1 ?_)
  intro r
  rw [(hmay list hlist).2]
  cases truthy (r.find name) with
  | some id => exact wp_pure (hQ (some id))
  | none =>
    refine wp_bind (wp_perform (hmay create hcreate).1 ?_)
    intro created
    rw [(hmay create hcreate).2]
    exact wp_pure (hQ created.id)

/-- What is pushed behind for another device changes nothing. -/
theorem Pushed.other {n n' : Nat} {posted : Option String} {devices : List (String × RootKeys)}
    (h : Pushed keys existing start d n posted devices) (hn : n ≤ n') {deviceId : String} (hne : deviceId ≠ d) (c : RootKeys) :
    Pushed keys existing start d n' posted (devices ++ [(deviceId, c)]) := by
  have hstore : credStore (devices ++ [(deviceId, c)]) d = credStore devices d := by
    rw [credStore_concat]
    exact Function.update_of_ne (Ne.symm hne) _ _
  refine ⟨?_, ?_, fun k hk => (h.fits k hk).mono hn⟩
  · rw [hstore]
    exact h.key
  · rw [hstore]
    exact h.saved

/-- Credentials for a device: the saved ones, or ones with a key that the attempt has drawn. -/
def Chosen (keys : KeySource) (existing : CredStore) (start : Nat) (d : String) (n : Nat) (c : RootKeys) : Prop :=
  existing d = some c ∨ existing d = none ∧ ∃ i, start ≤ i ∧ i < n ∧ c.appKey = keys.1 i

theorem Chosen.fits {n : Nat} {c : RootKeys} (h : Chosen keys existing start d n c) : Fits keys existing start d n c.appKey := by
  unfold Fits
  rcases h with hd | ⟨hd, hdrawn⟩
  · rw [hd]
  · rw [hd]
    exact hdrawn

/-- The device itself is pushed with the key that was posted for it. -/
theorem pushed_self {n : Nat} (devices : List (String × RootKeys)) {c : RootKeys} (hc : Chosen keys existing start d n c) :
    Pushed keys existing start d n (some c.appKey) (devices ++ [(d, c)]) := by
  have hstore : credStore (devices ++ [(d, c)]) d = some c := by
    rw [credStore_concat]
    exact Function.update_self _ _ _
  refine ⟨by rw [hstore]; rfl, ?_, ?_⟩
  · intro c' hc' c'' hc''
    rw [hstore] at hc''
    obtain rfl := Option.some.inj hc''
    rcases hc with hd | ⟨hd, -⟩
    · exact Option.some.inj (hd.symm.trans hc')
    · rw [hd] at hc'
      cases hc'
  · intro k hk
    obtain rfl := Option.some.inj hk
    exact hc.fits

theorem wp_provisionDevices {fixtures : List (String × String)} (hnodup : (fixtures.map Prod.fst).Nodup)
    {applicationId deviceProfileId : Option String} {devices : List (String × RootKeys)} {n : Nat} {posted : Option String}
    (hstart : start ≤ n) (h : Pushed keys existing start d n posted devices) (hnew : d ∈ fixtures.map Prod.fst → posted = none) :
    Wp keys.1 (MayCall keys existing start d) (afterCall d)
      (fun n posted' devices => Pushed keys existing start d n posted' devices ∧
        (posted' ≠ none ↔ posted ≠ none ∨ d ∈ fixtures.map Prod.fst))
      (provisionDevices existing applicationId deviceProfileId fixtures devices) n posted := by
  induction fixtures generalizing devices n posted with
  | nil => exact wp_pure ⟨h, by simp⟩
  | cons fixture fixtures ih =>
    obtain ⟨deviceId, name⟩ := fixture
    obtain ⟨hfirst, hnodup⟩ := List.nodup_cons.1 hnodup
    -- the two posts and the rest of the loop, with the credentials that were chosen
    have hrest : ∀ n' c, n ≤ n' → Chosen keys existing start deviceId n' c →
        Wp keys.1 (MayCall keys existing start d) (afterCall d)
          (fun n posted' devices => Pushed keys existing start d n posted' devices ∧
            (posted' ≠ none ↔ posted ≠ none ∨ d ∈ deviceId :: fixtures.map Prod.fst))
          (do
            let _ ← Program.perform (.postDevice deviceId name applicationId deviceProfileId c.joinEui)
            let _ ← Program.perform (.postKeys deviceId c.appKey)
            provisionDevices existing applicationId deviceProfileId fixtures (devices ++ [(deviceId, c)])) n' posted := by
      intro n' c hn hc
      refine wp_bind (wp_perform trivial ?_)
      intro _
      by_cases hd : deviceId = d
      · subst hd
        have hnone : posted = none := hnew List.mem_cons_self
        refine wp_bind (wp_perform (fun _ => ⟨hnone, hc.fits⟩) ?_)
        intro _
        have hposted : afterCall deviceId posted (.postKeys deviceId c.appKey) = some c.appKey := if_pos rfl
        change Wp _ _ _ _ _ n' (afterCall deviceId posted (.postKeys deviceId c.appKey))
        rw [hposted]
        refine (ih hnodup (Nat.le_trans hstart hn) (pushed_self devices hc) (fun hmem => absurd hmem hfirst)).mono ?_
        intro n posted' devices hpost
        exact ⟨hpost.1, iff_of_true (hpost.2.2 (Or.inl (Option.some_ne_none _))) (Or.inr List.mem_cons_self)⟩
      · refine wp_bind (wp_perform (fun heq => absurd heq hd) ?_)
        intro _
        have hposted : afterCall d posted (.postKeys deviceId c.appKey) = posted := if_neg hd
        change Wp _ _ _ _ _ n' (afterCall d posted (.postKeys deviceId c.appKey))
        rw [hposted]
        refine (ih hnodup (Nat.le_trans hstart hn) (h.other hn hd c) (fun hmem => hnew (List.mem_cons_of_mem _ hmem))).mono ?_
        intro n posted' devices hpost
        refine ⟨hpost.1, hpost.2.trans ?_⟩
        rw [List.mem_cons, or_iff_right (fun heq : d = deviceId => hd heq.symm)]
    refine wp_bind (wp_credsOf ?_ ?_)
    · intro c hc
      exact hrest n c (Nat.le_refl n) (Or.inl hc)
    · intro hnone
      exact hrest (n + 1) _ (Nat.le_succ n) (Or.inr ⟨hnone, n, hstart, Nat.lt_succ_self n, rfl⟩)

/-- An attempt, from its first request. -/
theorem attempt_provision (gatewayEui : String) {fixtures : List (String × String)} (hnodup : (fixtures.map Prod.fst).Nodup) :
    Attempt keys existing start d (fixtures.map Prod.fst) (provision gatewayEui fixtures existing) start none := by
  have hempty : Pushed keys existing start d start none [] :=
    ⟨rfl, fun c _ c' hc' => (Option.not_mem_none c' hc').elim, fun k hk => (Option.not_mem_none k hk).elim⟩
  unfold provision
  refine wp_bind (wp_perform trivial ?_)
  intro _
  refine wp_bind (wp_perform trivial ?_)
  intro tenants
  cases truthy ((tenants.result.getD []).head?.map Prod.fst) with
  | none => exact wp_throw
  | some tenantId =>
    refine wp_bind (wp_findOrCreate (by simp) (by simp) ?_)
    intro applicationId
    refine wp_bind (wp_findOrCreate (by simp) (by simp) ?_)
    intro deviceProfileId
    refine wp_bind (wp_perform trivial ?_)
    intro _
    refine (wp_provisionDevices hnodup (Nat.le_refl start) hempty (fun _ => rfl)).mono ?_
    intro n posted devices h
    exact ⟨h.1, h.2.trans (or_iff_right (fun hne => hne rfl))⟩

end

/-! ## The state between requests -/

section

variable {cs : ChirpStack} (keys : KeySource) (d : String)

/-- The DevEUIs of the fixtures. -/
abbrev provisionIds : List String := provisionFixtures.map Prod.fst

theorem nodup_provisionIds : provisionIds.Nodup := by decide +kernel

/-- Every key there is was drawn, and of a device that has been saved the two keys agree exactly if all went well (`calm`). -/
structure KeysOk (s : Provisioning cs) (calm : Prop) : Prop where
  issued : ∀ k ∈ cs.key s.server d, ∃ i < s.drawn, k = keys.1 i
  saved : ∀ c ∈ s.disk d, (∃ i < s.drawn, c.appKey = keys.1 i) ∧ d ∈ provisionIds ∧
    ∃ k, cs.key s.server d = some k ∧ (k = c.appKey ↔ calm)

/-- Without an attempt, all went well for a device that has not been saved exactly if it has no key. -/
def Idle (s : Provisioning cs) (calm : Prop) : Prop := s.disk d = none → (calm ↔ cs.key s.server d = none)

/-- In an attempt that has read `existing` and posted `posted`: what is saved of the device has been read, or nothing has. Where nothing
has been read, ChirpStack has the key that the attempt found, which was drawn before it, or else the one
posted; the attempt found none exactly if none was saved and all went well. -/
structure Found (s : Provisioning cs) (calm : Prop) (existing : CredStore) (start : Nat) (posted : Option String) : Prop where
  start_le : start ≤ s.drawn
  read : existing d = s.disk d ∨ existing d = none
  found : existing d = none → ∃ found, cs.key s.server d = found.or posted ∧ (found = none ↔ s.disk d = none ∧ calm) ∧
    ∀ k ∈ found, ∃ i < start, k = keys.1 i

def PhaseOk (s : Provisioning cs) (calm : Prop) : ProvisionPhase → Prop
  | .off | .running => Idle d s calm
  | .provisioning existing _ p =>
    ∃ start posted, Found keys d s calm existing start posted ∧ Attempt keys existing start d provisionIds p s.drawn posted
  | .saving existing devices =>
    ∃ start posted, Found keys d s calm existing start posted ∧ Pushed keys existing start d s.drawn posted devices ∧
      (posted ≠ none ↔ d ∈ provisionIds)

/-- The invariant of provisioning. -/
structure ProvisionInv (s : Provisioning cs) (calm : Prop) : Prop where
  keysOk : KeysOk keys d s calm
  phaseOk : PhaseOk keys d s calm s.phase

variable {keys d} {s : Provisioning cs} {calm : Prop} {existing : CredStore}

theorem KeysOk.congr {s' : Provisioning cs} (h : KeysOk keys d s calm) (hserver : s'.server = s.server) (hdisk : s'.disk = s.disk)
    (hdrawn : s.drawn ≤ s'.drawn) : KeysOk keys d s' calm := by
  refine ⟨?_, ?_⟩
  · intro k hk
    rw [hserver] at hk
    obtain ⟨i, hi, heq⟩ := h.issued k hk
    exact ⟨i, Nat.lt_of_lt_of_le hi hdrawn, heq⟩
  · intro c hc
    rw [hdisk] at hc
    obtain ⟨⟨i, hi, heq⟩, hid, hkey⟩ := h.saved c hc
    rw [hserver]
    exact ⟨⟨i, Nat.lt_of_lt_of_le hi hdrawn, heq⟩, hid, hkey⟩

/-- A device without a key has not been saved. -/
theorem KeysOk.disk_none (h : KeysOk keys d s calm) (hkey : cs.key s.server d = none) : s.disk d = none := by
  cases hdisk : s.disk d with
  | none => rfl
  | some c =>
    obtain ⟨-, -, k, hk, -⟩ := h.saved c hdisk
    rw [hkey] at hk
    cases hk

theorem Found.congr {s' : Provisioning cs} {start : Nat} {posted : Option String} (h : Found keys d s calm existing start posted)
    (hserver : s'.server = s.server) (hdisk : s'.disk = s.disk) (hdrawn : s.drawn ≤ s'.drawn) :
    Found keys d s' calm existing start posted := by
  refine ⟨Nat.le_trans h.start_le hdrawn, ?_, ?_⟩
  · rw [hdisk]
    exact h.read
  · rw [hserver, hdisk]
    exact h.found

/-- Of a device that is not saved nothing has been read. -/
theorem Found.existing_none {start : Nat} {posted : Option String} (h : Found keys d s calm existing start posted)
    (hdisk : s.disk d = none) : existing d = none := by
  rcases h.read with hread | hread
  · exact hread.trans hdisk
  · exact hread

/-- Where ChirpStack has no key of a device, all went well. -/
theorem Found.calm_of_none {start : Nat} {posted : Option String} (h : Found keys d s calm existing start posted)
    (hdisk : s.disk d = none) (hkey : cs.key s.server d = none) : calm := by
  obtain ⟨found, heq, hcalm, -⟩ := h.found (h.existing_none hdisk)
  rw [hkey] at heq
  exact (hcalm.1 (Option.or_eq_none_iff.1 heq.symm).1).2

/-- A program goes on: what it promised it still does. -/
theorem inv_settle (hkeys : KeysOk keys d s calm) {start : Nat} {posted : Option String}
    (hfound : Found keys d s calm existing start posted) {p : Chirp (List (String × RootKeys))}
    (hp : Attempt keys existing start d provisionIds p s.drawn posted) (attempt : Nat) :
    ProvisionInv keys d (s.settle keys existing attempt p) calm := by
  have hadvanced := Wp.advance hp
  have hdrawn := le_advance keys.1 p s.drawn
  refine ⟨hkeys.congr rfl rfl hdrawn, ?_⟩
  unfold Provisioning.settle
  dsimp only
  cases hphase : (p.advance keys.1 s.drawn).1 with
  | done devices =>
    rw [hphase] at hadvanced
    exact ⟨start, posted, hfound.congr rfl rfl hdrawn, hadvanced⟩
  | throw => exact ⟨start, posted, hfound.congr rfl rfl hdrawn, trivial⟩
  | call c k =>
    rw [hphase] at hadvanced
    exact ⟨start, posted, hfound.congr rfl rfl hdrawn, hadvanced⟩
  | draw k =>
    rw [hphase] at hadvanced
    exact ⟨start, posted, hfound.congr rfl rfl hdrawn, hadvanced⟩

/-- A new attempt finds the key that ChirpStack has. -/
theorem inv_start (gatewayEui : String) (hkeys : KeysOk keys d s calm) (hidle : Idle d s calm)
    (hread : existing d = s.disk d ∨ existing d = none) (attempt : Nat) :
    ProvisionInv keys d (s.start keys gatewayEui existing attempt) calm := by
  refine inv_settle hkeys ⟨Nat.le_refl s.drawn, hread, ?_⟩
    (attempt_provision gatewayEui nodup_provisionIds) attempt
  intro _
  refine ⟨cs.key s.server d, (Option.or_none).symm, ?_, hkeys.issued⟩
  constructor
  · intro hkey
    have hdisk := hkeys.disk_none hkey
    exact ⟨hdisk, (hidle hdisk).2 hkey⟩
  · rintro ⟨hdisk, hcalm⟩
    exact (hidle hdisk).1 hcalm

theorem inv_retry (gatewayEui : String) (hkeys : KeysOk keys d s calm) (hidle : Idle d s calm)
    (hread : existing d = s.disk d ∨ existing d = none) (attempt : Nat) :
    ProvisionInv keys d (s.retry keys gatewayEui existing attempt) calm := by
  unfold Provisioning.retry
  split_ifs
  · exact ⟨hkeys.congr rfl rfl (Nat.le_refl _), hidle⟩
  · exact inv_start gatewayEui hkeys hidle hread (attempt + 1)

/-- ChirpStack has a key of the device, and the volume has none. -/
def Pending (d : String) (s : Provisioning cs) : Prop := cs.key s.server d ≠ none ∧ s.disk d = none

/-- An attempt that is given up goes on well exactly if it leaves no key behind that was not saved. -/
theorem abandoned (hkeys : KeysOk keys d s calm) (hcalm : s.disk d = none → cs.key s.server d = none → calm) :
    KeysOk keys d s (calm ∧ ¬Pending d s) ∧ Idle d s (calm ∧ ¬Pending d s) := by
  refine ⟨⟨hkeys.issued, ?_⟩, ?_⟩
  · intro c hc
    obtain ⟨hissued, hid, k, hk, hagree⟩ := hkeys.saved c hc
    have hnot : ¬Pending d s := by
      rintro ⟨-, hnone⟩
      rw [hnone] at hc
      cases hc
    exact ⟨hissued, hid, k, hk, hagree.trans (and_iff_left hnot).symm⟩
  · intro hdisk
    constructor
    · rintro ⟨-, hnot⟩
      by_contra hne
      exact hnot ⟨hne, hdisk⟩
    · intro hnone
      exact ⟨hcalm hdisk hnone, fun hpending => hpending.1 hnone⟩

/-- A request that is carried out: the first key that is posted for the device is the one it keeps. -/
theorem carried_out (hkeys : KeysOk keys d s calm) {start : Nat} {posted : Option String}
    (hfound : Found keys d s calm existing start posted) {c : ChirpCall} (hmay : MayCall keys existing start d s.drawn posted c) :
    KeysOk keys d { s with server := cs.handle s.server c } calm ∧
      Found keys d { s with server := cs.handle s.server c } calm existing start (afterCall d posted c) := by
  by_cases hc : ∃ nwkKey, c = .postKeys d nwkKey
  · obtain ⟨nwkKey, rfl⟩ := hc
    obtain ⟨rfl, hfits⟩ := hmay rfl
    have hkey : cs.key (cs.handle s.server (.postKeys d nwkKey)) d = some ((cs.key s.server d).getD nwkKey) := by
      rw [cs.key_postKeys, if_pos rfl]
    have hissued : ∃ i < s.drawn, nwkKey = keys.1 i := by
      unfold Fits at hfits
      cases hread : existing d with
      | some saved =>
        rw [hread] at hfits
        have hdisk : s.disk d = some saved := by
          rcases hfound.read with h | h
          · exact h.symm.trans hread
          · rw [h] at hread
            cases hread
        obtain ⟨hsaved, -⟩ := hkeys.saved saved hdisk
        rwa [hfits]
      | none =>
        rw [hread] at hfits
        obtain ⟨i, -, hi, heq⟩ := hfits
        exact ⟨i, hi, heq⟩
    refine ⟨⟨?_, ?_⟩, hfound.start_le, hfound.read, ?_⟩
    · intro k hk
      change k ∈ cs.key (cs.handle s.server (.postKeys d nwkKey)) d at hk
      rw [hkey] at hk
      obtain rfl := Option.some.inj hk
      cases hold : cs.key s.server d with
      | none => exact hissued
      | some old => exact hkeys.issued old hold
    · intro saved hsaved
      obtain ⟨hdrawn, hid, k, hk, hagree⟩ := hkeys.saved saved hsaved
      refine ⟨hdrawn, hid, k, ?_, hagree⟩
      rw [hkey, hk]
      rfl
    · intro hread
      obtain ⟨found, heq, hcalm, hold⟩ := hfound.found hread
      refine ⟨found, ?_, hcalm, hold⟩
      have hposted : afterCall d none (.postKeys d nwkKey) = some nwkKey := if_pos rfl
      rw [hkey, heq, hposted, Option.or_none]
      cases found <;> rfl
  · have hkey : cs.key (cs.handle s.server c) d = cs.key s.server d := by
      cases c with
      | postKeys devEui nwkKey =>
        rw [cs.key_postKeys, if_neg]
        rintro rfl
        exact hc ⟨nwkKey, rfl⟩
      | _ => exact cs.key_other _ _ _ (by simp)
    have hposted : afterCall d posted c = posted := by
      cases c with
      | postKeys devEui nwkKey =>
        refine if_neg ?_
        rintro rfl
        exact hc ⟨nwkKey, rfl⟩
      | _ => rfl
    rw [hposted]
    refine ⟨⟨?_, ?_⟩, hfound.start_le, hfound.read, ?_⟩
    · rw [hkey]
      exact hkeys.issued
    · rw [hkey]
      exact hkeys.saved
    · rw [hkey]
      exact hfound.found

/-! ## One step -/

/-- A save of an attempt that has not read the credentials that are there. -/
def SavesUnread (d : String) (s : Provisioning cs) (e : ProvisionEvent) : Prop :=
  e = .save ∧ ∃ existing devices, s.phase = .saving existing devices ∧ existing d ≠ s.disk d

/-- A step leaves no key behind for the device: it abandons no attempt, or no key of the device is left unsaved; and it saves nothing
over credentials that were not read. -/
def LeavesNone (keys : KeySource) (gatewayEui : String) (d : String) (s : Provisioning cs) (e : ProvisionEvent) : Prop :=
  (s.abandons keys e = true → ¬Pending d (s.step keys gatewayEui e)) ∧ ¬SavesUnread d s e

theorem inv_congr {calm' : Prop} (h : ProvisionInv keys d s calm) (hcalm : calm ↔ calm') : ProvisionInv keys d s calm' :=
  propext hcalm ▸ h

/-- What is saved of the device is what the attempt posted, and that is what was saved before, if it was read. -/
theorem inv_save (hkeys : KeysOk keys d s calm) {start : Nat} {posted : Option String}
    (hfound : Found keys d s calm existing start posted) {devices : List (String × RootKeys)}
    (hpushed : Pushed keys existing start d s.drawn posted devices) (hposted : posted ≠ none ↔ d ∈ provisionIds) :
    ProvisionInv keys d { s with disk := credStore devices, phase := .running } (calm ∧ existing d = s.disk d) := by
  have hkey := hpushed.key
  cases hstore : credStore devices d with
  | none =>
    rw [hstore] at hkey
    obtain rfl : none = posted := hkey
    have hdisk : s.disk d = none := by
      cases hdisk : s.disk d with
      | none => rfl
      | some c => exact absurd rfl (hposted.2 (hkeys.saved c hdisk).2.1)
    have hread := hfound.existing_none hdisk
    refine ⟨⟨hkeys.issued, ?_⟩, ?_⟩
    · intro c hc
      change c ∈ credStore devices d at hc
      rw [hstore] at hc
      cases hc
    · intro _
      obtain ⟨found, heq, hcalm, -⟩ := hfound.found hread
      rw [Option.or_none] at heq
      rw [and_iff_left (hread.trans hdisk.symm), heq, hcalm, and_iff_right hdisk]
  | some c =>
    rw [hstore] at hkey
    obtain rfl : some c.appKey = posted := hkey
    refine ⟨⟨hkeys.issued, ?_⟩, ?_⟩
    · intro c' hc'
      change c' ∈ credStore devices d at hc'
      rw [hstore] at hc'
      obtain rfl := Option.some.inj hc'
      have hfits := hpushed.fits _ rfl
      unfold Fits at hfits
      cases hread : existing d with
      | some saved =>
        have hdisk : s.disk d = some saved := by
          rcases hfound.read with h | h
          · exact h.symm.trans hread
          · rw [h] at hread
            cases hread
        rw [hpushed.saved saved hread c hstore]
        obtain ⟨hdrawn, hid, k, hk, hagree⟩ := hkeys.saved saved hdisk
        exact ⟨hdrawn, hid, k, hk, hagree.trans (and_iff_left hdisk.symm).symm⟩
      | none =>
        rw [hread] at hfits
        obtain ⟨j, hstart, hj, hdrawn⟩ := hfits
        refine ⟨⟨j, hj, hdrawn⟩, hposted.1 (Option.some_ne_none _), ?_⟩
        obtain ⟨found, heq, hcalm, hold⟩ := hfound.found hread
        cases found with
        | none =>
          obtain ⟨hdisk, hwell⟩ := hcalm.1 rfl
          exact ⟨c.appKey, heq, iff_of_true rfl ⟨hwell, hdisk.symm⟩⟩
        | some k =>
          refine ⟨k, heq, iff_of_false ?_ (fun h => Option.some_ne_none k (hcalm.2 ⟨h.2.symm, h.1⟩))⟩
          -- the key that was found was drawn before the attempt, the one that is saved in it
          intro hagree
          obtain ⟨i, hi, hk⟩ := hold k rfl
          have hsame := keys.2 (hk.symm.trans (hagree.trans hdrawn))
          exact absurd hstart (Nat.not_le_of_lt (hsame ▸ hi))
    · intro hnone
      change credStore devices d = none at hnone
      rw [hstore] at hnone
      cases hnone

/-- A save that is cut off leaves nothing saved, and the key that ChirpStack has behind. -/
theorem inv_cutOff (hkeys : KeysOk keys d s calm) {start : Nat} {posted : Option String}
    (hfound : Found keys d s calm existing start posted) {s' : Provisioning cs}
    (hs' : s' = { s with disk := fun _ => none, phase := .off }) : ProvisionInv keys d s' (calm ∧ ¬Pending d s') := by
  subst hs'
  refine ⟨⟨hkeys.issued, fun c hc => (Option.not_mem_none c hc).elim⟩, ?_⟩
  intro _
  constructor
  · rintro ⟨-, hnot⟩
    by_contra hne
    exact hnot ⟨hne, rfl⟩
  · intro hnone
    exact ⟨hfound.calm_of_none (hkeys.disk_none hnone) hnone, fun hpending => hpending.1 hnone⟩

/-- An attempt that is given up, and the next one or none. -/
theorem inv_give_up (hkeys : KeysOk keys d s calm) {start : Nat} {posted : Option String}
    (hfound : Found keys d s calm existing start posted) {s' : Provisioning cs} (hserver : s'.server = s.server)
    (hdisk : s'.disk = s.disk)
    (h : KeysOk keys d s (calm ∧ ¬Pending d s) → Idle d s (calm ∧ ¬Pending d s) → ProvisionInv keys d s' (calm ∧ ¬Pending d s)) :
    ProvisionInv keys d s' (calm ∧ ¬Pending d s') := by
  obtain ⟨hkeys', hidle⟩ := abandoned hkeys (fun hd hk => hfound.calm_of_none hd hk)
  refine inv_congr (h hkeys' hidle) (and_congr_right (fun _ => not_congr ?_))
  unfold Pending
  rw [hserver, hdisk]

theorem retry_same (gatewayEui : String) (s : Provisioning cs) (existing : CredStore) (attempt : Nat) :
    (s.retry keys gatewayEui existing attempt).server = s.server ∧ (s.retry keys gatewayEui existing attempt).disk = s.disk := by
  unfold Provisioning.retry
  split_ifs <;> exact ⟨rfl, rfl⟩

/-- A program that has been answered throws, and a new attempt begins, or it goes on. -/
theorem resume_cases (gatewayEui : String) (s : Provisioning cs) (existing : CredStore) (attempt : Nat)
    (p : Chirp (List (String × RootKeys))) :
    (∃ drawn, p.advance keys.1 s.drawn = (.throw, drawn) ∧
      s.resume keys gatewayEui existing attempt p = { s with drawn }.retry keys gatewayEui existing attempt) ∨
    ((p.advance keys.1 s.drawn).1 ≠ .throw ∧ s.resume keys gatewayEui existing attempt p = s.settle keys existing attempt p) := by
  unfold Provisioning.resume
  cases hp : p.advance keys.1 s.drawn with
  | mk p' drawn =>
    cases p' with
    | throw => exact Or.inl ⟨drawn, rfl, rfl⟩
    | done devices => exact Or.inr ⟨by simp, rfl⟩
    | call c k => exact Or.inr ⟨by simp, rfl⟩
    | draw k => exact Or.inr ⟨by simp, rfl⟩

theorem resume_same (gatewayEui : String) (s : Provisioning cs) (existing : CredStore) (attempt : Nat)
    (p : Chirp (List (String × RootKeys))) :
    (s.resume keys gatewayEui existing attempt p).server = s.server ∧
      (s.resume keys gatewayEui existing attempt p).disk = s.disk := by
  rcases resume_cases gatewayEui s existing attempt p with ⟨drawn, -, heq⟩ | ⟨-, heq⟩
  · rw [heq]
    exact retry_same ..
  · rw [heq]
    exact ⟨rfl, rfl⟩

theorem abandons_answered {existing : CredStore} {attempt : Nat} {c : ChirpCall} {k : ChirpReply → Chirp (List (String × RootKeys))}
    (hs : s.phase = .provisioning existing attempt (.call c k)) (reply : ChirpReply) :
    s.abandons keys (.answered reply) = true ↔ ((k reply).advance keys.1 s.drawn).1 = .throw := by
  simp only [Provisioning.abandons, hs]
  cases (k reply).advance keys.1 s.drawn with
  | mk p' drawn => cases p' <;> simp

/-- Only a save writes the volume, and one that is cut off. -/
theorem step_disk (gatewayEui : String) {e : ProvisionEvent}
    (h : ∀ existing devices, s.phase = .saving existing devices → e ≠ .save ∧ e ≠ .cutOff) :
    (s.step keys gatewayEui e).disk = s.disk := by
  cases hs : s.phase with
  | off =>
    cases e with
    | boot readable =>
      simp only [Provisioning.step, hs]
      rfl
    | _ => simp only [Provisioning.step, hs]
  | running => cases e <;> simp only [Provisioning.step, hs]
  | saving existing devices =>
    cases e with
    | save => exact absurd rfl (h existing devices hs).1
    | cutOff => exact absurd rfl (h existing devices hs).2
    | _ => simp only [Provisioning.step, hs]
  | provisioning existing attempt p =>
    cases p with
    | call c k =>
      cases e with
      | answered reply =>
        simp only [Provisioning.step, hs]
        exact (resume_same ..).2
      | lost =>
        simp only [Provisioning.step, hs]
        exact (retry_same ..).2
      | failed =>
        simp only [Provisioning.step, hs]
        exact (retry_same ..).2
      | _ => simp only [Provisioning.step, hs]
    | _ => cases e <;> simp only [Provisioning.step, hs]


/-- A step in which no attempt ends unsaved, and nothing is saved over what was not read. -/
theorem inv_quiet (gatewayEui : String) {e : ProvisionEvent} (hfalse : s.abandons keys e = false) (hread : ¬SavesUnread d s e)
    (h : ProvisionInv keys d (s.step keys gatewayEui e) calm) :
    ProvisionInv keys d (s.step keys gatewayEui e) (calm ∧ LeavesNone keys gatewayEui d s e) := by
  refine inv_congr h (and_iff_left ⟨?_, hread⟩).symm
  intro htrue
  rw [hfalse] at htrue
  cases htrue

/-- A step in which an attempt ends unsaved. -/
theorem inv_ended (gatewayEui : String) {e : ProvisionEvent} (htrue : s.abandons keys e = true) (hread : ¬SavesUnread d s e)
    (h : ProvisionInv keys d (s.step keys gatewayEui e) (calm ∧ ¬Pending d (s.step keys gatewayEui e))) :
    ProvisionInv keys d (s.step keys gatewayEui e) (calm ∧ LeavesNone keys gatewayEui d s e) := by
  refine inv_congr h (and_congr_right (fun _ => ?_))
  exact ⟨fun hnot => ⟨fun _ => hnot, hread⟩, fun hleaves => hleaves.1 htrue⟩

/-- A step that nothing comes of. -/
theorem inv_stays (gatewayEui : String) (h : ProvisionInv keys d s calm) {e : ProvisionEvent} (hfalse : s.abandons keys e = false)
    (hread : ¬SavesUnread d s e) (hstep : s.step keys gatewayEui e = s) :
    ProvisionInv keys d (s.step keys gatewayEui e) (calm ∧ LeavesNone keys gatewayEui d s e) := by
  refine inv_quiet gatewayEui hfalse hread ?_
  rw [hstep]
  exact h

theorem not_savesUnread (h : ∀ existing devices, s.phase ≠ .saving existing devices) (e : ProvisionEvent) : ¬SavesUnread d s e := by
  rintro ⟨-, existing, devices, hsaving, -⟩
  exact h existing devices hsaving

theorem inv_step_saving (gatewayEui : String) (h : ProvisionInv keys d s calm) {devices : List (String × RootKeys)}
    (hs : s.phase = .saving existing devices) (e : ProvisionEvent) :
    ProvisionInv keys d (s.step keys gatewayEui e) (calm ∧ LeavesNone keys gatewayEui d s e) := by
  obtain ⟨start, posted, hfound, hpushed, hposted⟩ : PhaseOk keys d s calm (.saving existing devices) := hs ▸ h.phaseOk
  have hread : ∀ {e}, e ≠ .save → ¬SavesUnread d s e := fun hne hunread => hne hunread.1
  cases e with
  | save =>
    have hcalm : calm ∧ existing d = s.disk d ↔ calm ∧ LeavesNone keys gatewayEui d s .save := by
      refine and_congr_right (fun _ => ?_)
      constructor
      · intro heq
        refine ⟨fun htrue => absurd htrue Bool.false_ne_true, ?_⟩
        rintro ⟨-, existing', devices', hsaving, hne⟩
        obtain ⟨rfl, -⟩ := ProvisionPhase.saving.inj (hs.symm.trans hsaving)
        exact hne heq
      · intro hleaves
        by_contra hne
        exact hleaves.2 ⟨rfl, existing, devices, hs, hne⟩
    refine inv_congr ?_ hcalm
    simp only [Provisioning.step, hs]
    exact inv_save h.keysOk hfound hpushed hposted
  | cutOff =>
    refine inv_ended gatewayEui (by simp only [Provisioning.abandons, hs]) (hread (by simp)) ?_
    exact inv_cutOff h.keysOk hfound (by simp only [Provisioning.step, hs])
  | crash =>
    refine inv_ended gatewayEui (by simp only [Provisioning.abandons, hs]) (hread (by simp)) ?_
    exact inv_give_up h.keysOk hfound rfl rfl (fun hk hi => ⟨hk.congr rfl rfl (Nat.le_refl _), hi⟩)
  | _ => exact inv_stays gatewayEui h (by simp only [Provisioning.abandons, hs]) (hread (by simp)) (by simp only [Provisioning.step, hs])

theorem inv_step_provisioning (gatewayEui : String) (h : ProvisionInv keys d s calm) {attempt : Nat}
    {p : Chirp (List (String × RootKeys))} (hs : s.phase = .provisioning existing attempt p) (e : ProvisionEvent) :
    ProvisionInv keys d (s.step keys gatewayEui e) (calm ∧ LeavesNone keys gatewayEui d s e) := by
  obtain ⟨start, posted, hfound, hattempt⟩ : PhaseOk keys d s calm (.provisioning existing attempt p) := hs ▸ h.phaseOk
  have hread : ∀ e, ¬SavesUnread d s e := not_savesUnread (by simp [hs])
  cases e with
  | boot readable => exact inv_stays gatewayEui h rfl (hread _) (by simp only [Provisioning.step, hs])
  | save => exact inv_stays gatewayEui h rfl (hread _) (by simp only [Provisioning.step, hs])
  | cutOff => exact inv_stays gatewayEui h (by simp only [Provisioning.abandons, hs]) (hread _) (by simp only [Provisioning.step, hs])
  | crash =>
    refine inv_ended gatewayEui (by simp only [Provisioning.abandons, hs]) (hread _) ?_
    exact inv_give_up h.keysOk hfound rfl rfl (fun hk hi => ⟨hk.congr rfl rfl (Nat.le_refl _), hi⟩)
  | answered reply =>
    cases p with
    | call c k =>
      obtain ⟨hmay, hafter⟩ := hattempt
      obtain ⟨hkeys', hfound'⟩ := carried_out h.keysOk hfound hmay
      have hstep : s.step keys gatewayEui (.answered reply) =
          { s with server := cs.handle s.server c }.resume keys gatewayEui existing attempt (k reply) := by
        simp only [Provisioning.step, hs]
      rcases resume_cases gatewayEui { s with server := cs.handle s.server c } existing attempt (k reply) with
        ⟨drawn, hthrow, hresume⟩ | ⟨hthrow, hresume⟩
      · refine inv_ended gatewayEui ((abandons_answered hs reply).2 (congrArg Prod.fst hthrow)) (hread _) ?_
        have hdrawn : s.drawn ≤ drawn := (le_advance keys.1 (k reply) s.drawn).trans_eq (congrArg Prod.snd hthrow)
        rw [hstep, hresume]
        refine inv_give_up (s := { s with server := cs.handle s.server c, drawn }) (hkeys'.congr rfl rfl hdrawn)
          (hfound'.congr rfl rfl hdrawn) (retry_same ..).1 (retry_same ..).2 ?_
        intro hk hi
        exact inv_retry gatewayEui hk hi hfound.read attempt
      · refine inv_quiet gatewayEui (Bool.eq_false_iff.2 (mt (abandons_answered hs reply).1 hthrow)) (hread _) ?_
        rw [hstep, hresume]
        exact inv_settle hkeys' hfound' (hafter reply) attempt
    | _ => exact inv_stays gatewayEui h (by simp only [Provisioning.abandons, hs]) (hread _) (by simp only [Provisioning.step, hs])
  | lost =>
    cases p with
    | call c k =>
      obtain ⟨hkeys', hfound'⟩ := carried_out h.keysOk hfound hattempt.1
      refine inv_ended gatewayEui (by simp only [Provisioning.abandons, hs]) (hread _) ?_
      have hstep : s.step keys gatewayEui .lost =
          { s with server := cs.handle s.server c }.retry keys gatewayEui existing attempt := by
        simp only [Provisioning.step, hs]
      rw [hstep]
      refine inv_give_up hkeys' hfound' (retry_same ..).1 (retry_same ..).2 ?_
      intro hk hi
      exact inv_retry gatewayEui hk hi hfound.read attempt
    | _ => exact inv_stays gatewayEui h (by simp only [Provisioning.abandons, hs]) (hread _) (by simp only [Provisioning.step, hs])
  | failed =>
    cases p with
    | call c k =>
      refine inv_ended gatewayEui (by simp only [Provisioning.abandons, hs]) (hread _) ?_
      have hstep : s.step keys gatewayEui .failed = s.retry keys gatewayEui existing attempt := by
        simp only [Provisioning.step, hs]
      rw [hstep]
      refine inv_give_up h.keysOk hfound (retry_same ..).1 (retry_same ..).2 ?_
      intro hk hi
      exact inv_retry gatewayEui hk hi hfound.read attempt
    | _ => exact inv_stays gatewayEui h (by simp only [Provisioning.abandons, hs]) (hread _) (by simp only [Provisioning.step, hs])

theorem inv_step (gatewayEui : String) (h : ProvisionInv keys d s calm) (e : ProvisionEvent) :
    ProvisionInv keys d (s.step keys gatewayEui e) (calm ∧ LeavesNone keys gatewayEui d s e) := by
  cases hs : s.phase with
  | saving existing devices => exact inv_step_saving gatewayEui h hs e
  | provisioning existing attempt p => exact inv_step_provisioning gatewayEui h hs e
  | off =>
    have hread : ∀ e, ¬SavesUnread d s e := not_savesUnread (by simp [hs])
    have hidle : Idle d s calm := by
      have hok := h.phaseOk
      rwa [hs] at hok
    cases e with
    | boot readable =>
      refine inv_quiet gatewayEui rfl (hread _) ?_
      simp only [Provisioning.step, hs]
      refine inv_start gatewayEui h.keysOk hidle ?_ 1
      unfold loadCreds
      split_ifs
      · exact Or.inl rfl
      · exact Or.inr rfl
    | crash =>
      refine inv_quiet gatewayEui (by simp only [Provisioning.abandons, hs]) (hread _) ?_
      exact ⟨h.keysOk.congr rfl rfl (Nat.le_refl _), hidle⟩
    | _ => exact inv_stays gatewayEui h (by simp only [Provisioning.abandons, hs]) (hread _) (by simp only [Provisioning.step, hs])
  | running =>
    have hread : ∀ e, ¬SavesUnread d s e := not_savesUnread (by simp [hs])
    cases e with
    | crash =>
      refine inv_quiet gatewayEui (by simp only [Provisioning.abandons, hs]) (hread _) ?_
      have hok := h.phaseOk
      rw [hs] at hok
      exact ⟨h.keysOk.congr rfl rfl (Nat.le_refl _), hok⟩
    | _ => exact inv_stays gatewayEui h (by simp only [Provisioning.abandons, hs]) (hread _) (by simp only [Provisioning.step, hs])

theorem inv_init (cs : ChirpStack) : ProvisionInv keys d (Provisioning.init cs) True := by
  refine ⟨⟨?_, ?_⟩, ?_⟩
  · intro k hk
    rw [Provisioning.init, cs.key_empty] at hk
    cases hk
  · intro c hc
    cases hc
  · intro _
    exact iff_of_true trivial (cs.key_empty d)

/-- A key that ChirpStack has stays. -/
theorem handle_key (cs : ChirpStack) (st : cs.State) (c : ChirpCall) {k : String} (h : cs.key st d = some k) :
    cs.key (cs.handle st c) d = some k := by
  cases c with
  | postKeys devEui nwkKey =>
    rw [cs.key_postKeys]
    split_ifs with hd
    · subst hd
      rw [h]
      rfl
    · exact h
  | _ => exact (cs.key_other _ _ _ (by simp)).trans h

/-- The server of the next state is the one there was, or that once the awaited request has been carried out. -/
theorem step_server (keys : KeySource) (gatewayEui : String) (s : Provisioning cs) (e : ProvisionEvent) :
    (s.step keys gatewayEui e).server = s.server ∨ ∃ c, (s.step keys gatewayEui e).server = cs.handle s.server c := by
  cases e with
  | boot readable =>
    refine Or.inl ?_
    unfold Provisioning.step
    cases s.phase <;> rfl
  | save =>
    refine Or.inl ?_
    unfold Provisioning.step
    cases s.phase <;> rfl
  | cutOff =>
    refine Or.inl ?_
    unfold Provisioning.step
    cases s.phase <;> rfl
  | crash => exact Or.inl rfl
  | answered reply =>
    cases hs : s.phase with
    | provisioning existing attempt p =>
      cases p with
      | call c k =>
        refine Or.inr ⟨c, ?_⟩
        simp only [Provisioning.step, hs]
        exact (resume_same ..).1
      | _ => exact Or.inl (by simp only [Provisioning.step, hs])
    | _ => exact Or.inl (by simp only [Provisioning.step, hs])
  | lost =>
    cases hs : s.phase with
    | provisioning existing attempt p =>
      cases p with
      | call c k =>
        refine Or.inr ⟨c, ?_⟩
        simp only [Provisioning.step, hs]
        exact (retry_same ..).1
      | _ => exact Or.inl (by simp only [Provisioning.step, hs])
    | _ => exact Or.inl (by simp only [Provisioning.step, hs])
  | failed =>
    cases hs : s.phase with
    | provisioning existing attempt p =>
      cases p with
      | call c k =>
        refine Or.inl ?_
        simp only [Provisioning.step, hs]
        exact (retry_same ..).1
      | _ => exact Or.inl (by simp only [Provisioning.step, hs])
    | _ => exact Or.inl (by simp only [Provisioning.step, hs])

/-! ### Attempts that have read what is saved -/

/-- An attempt has read what is on the volume. -/
def HasRead (s : Provisioning cs) : Prop :=
  match s.phase with
  | .provisioning existing _ _ | .saving existing _ => existing = s.disk
  | .off | .running => True

theorem hasRead_settle (hread : existing = s.disk) (attempt : Nat) (p : Chirp (List (String × RootKeys))) :
    HasRead (s.settle keys existing attempt p) := by
  unfold HasRead Provisioning.settle
  dsimp only
  cases (p.advance keys.1 s.drawn).1 <;> exact hread

theorem hasRead_retry (gatewayEui : String) (hread : existing = s.disk) (attempt : Nat) :
    HasRead (s.retry keys gatewayEui existing attempt) := by
  unfold Provisioning.retry
  split_ifs
  · trivial
  · exact hasRead_settle hread _ _

theorem hasRead_resume (gatewayEui : String) (hread : existing = s.disk) (attempt : Nat) (p : Chirp (List (String × RootKeys))) :
    HasRead (s.resume keys gatewayEui existing attempt p) := by
  rcases resume_cases gatewayEui s existing attempt p with ⟨drawn, -, heq⟩ | ⟨-, heq⟩
  · rw [heq]
    exact hasRead_retry (s := { s with drawn }) gatewayEui hread attempt
  · rw [heq]
    exact hasRead_settle hread attempt p

theorem hasRead_step (gatewayEui : String) (h : HasRead s) {e : ProvisionEvent} (he : e ≠ .boot false) :
    HasRead (s.step keys gatewayEui e) := by
  cases hs : s.phase with
  | off =>
    cases e with
    | boot readable =>
      cases readable with
      | false => exact absurd rfl he
      | true =>
        simp only [Provisioning.step, hs]
        exact hasRead_settle rfl _ _
    | crash => trivial
    | _ =>
      simp only [Provisioning.step, hs]
      exact h
  | running =>
    cases e with
    | crash => trivial
    | _ =>
      simp only [Provisioning.step, hs]
      exact h
  | saving existing devices =>
    cases e with
    | crash => trivial
    | save =>
      simp only [Provisioning.step, hs]
      trivial
    | cutOff =>
      simp only [Provisioning.step, hs]
      trivial
    | _ =>
      simp only [Provisioning.step, hs]
      exact h
  | provisioning existing attempt p =>
    have hread : existing = s.disk := by
      unfold HasRead at h
      rwa [hs] at h
    cases e with
    | crash => trivial
    | boot readable =>
      simp only [Provisioning.step, hs]
      exact h
    | save =>
      simp only [Provisioning.step, hs]
      exact h
    | cutOff =>
      simp only [Provisioning.step, hs]
      exact h
    | answered reply =>
      cases p with
      | call c k =>
        simp only [Provisioning.step, hs]
        exact hasRead_resume (s := { s with server := cs.handle s.server c }) gatewayEui hread attempt (k reply)
      | _ =>
        simp only [Provisioning.step, hs]
        exact h
    | lost =>
      cases p with
      | call c k =>
        simp only [Provisioning.step, hs]
        exact hasRead_retry (s := { s with server := cs.handle s.server c }) gatewayEui hread attempt
      | _ =>
        simp only [Provisioning.step, hs]
        exact h
    | failed =>
      cases p with
      | call c k =>
        simp only [Provisioning.step, hs]
        exact hasRead_retry gatewayEui hread attempt
      | _ =>
        simp only [Provisioning.step, hs]
        exact h

/-- Saved credentials stay: an attempt posts and saves those that it read. -/
theorem step_saved (gatewayEui : String) (h : ProvisionInv keys d s calm) (hread : HasRead s) {c : RootKeys} (hc : s.disk d = some c)
    {e : ProvisionEvent} (he : e ≠ .cutOff) : (s.step keys gatewayEui e).disk d = some c := by
  by_cases hsave : e = .save ∧ ∃ existing devices, s.phase = .saving existing devices
  · obtain ⟨rfl, existing, devices, hs⟩ := hsave
    unfold HasRead at hread
    have hok := h.phaseOk
    rw [hs] at hread hok
    obtain rfl : existing = s.disk := hread
    obtain ⟨start, posted, -, hpushed, hposted⟩ := hok
    have hne : posted ≠ none := hposted.2 (h.keysOk.saved c hc).2.1
    have hkey := hpushed.key
    simp only [Provisioning.step, hs]
    cases hstore : credStore devices d with
    | none =>
      rw [hstore] at hkey
      exact absurd hkey.symm hne
    | some c' => rw [hpushed.saved c hc c' hstore]
  · rw [step_disk gatewayEui (fun existing devices hs => ⟨fun heq => hsave ⟨heq, existing, devices, hs⟩, he⟩), hc]

end

/-! ## Every run -/

section

variable (cs : ChirpStack) (keys : KeySource) (gatewayEui : String) (d : String)

/-- No step of a run leaves a key behind. -/
def LeftNone (es : List ProvisionEvent) : Prop :=
  (provisionMachine keys gatewayEui cs).Along (LeavesNone keys gatewayEui d) (Provisioning.init cs) es

theorem inv_run (es : List ProvisionEvent) :
    ProvisionInv keys d ((provisionMachine keys gatewayEui cs).run (Provisioning.init cs) es) (LeftNone cs keys gatewayEui d es) := by
  refine @Machine.run_history _ _ _ (provisionMachine keys gatewayEui cs)
    (fun es s => ProvisionInv keys d s (LeftNone cs keys gatewayEui d es)) _ ?_ ?_ es
  · exact inv_congr (inv_init cs) Iff.rfl
  · intro es e h
    exact inv_congr (inv_step gatewayEui h e) ((provisionMachine keys gatewayEui cs).along_snoc _ _ es e).symm

/-- The key of a device stays through every run. -/
theorem run_key (s : Provisioning cs) {k : String} (hk : cs.key s.server d = some k) (es : List ProvisionEvent) :
    cs.key ((provisionMachine keys gatewayEui cs).run s es).server d = some k := by
  have hstep : ∀ (s : Provisioning cs) e, cs.key s.server d = some k → cs.key (s.step keys gatewayEui e).server d = some k := by
    intro s e hs
    rcases step_server keys gatewayEui s e with heq | ⟨c, heq⟩
    · rw [heq, hs]
    · rw [heq, handle_key cs s.server c hs]
  exact (provisionMachine keys gatewayEui cs).run_inv hstep hk es

/-- Where every load reads the volume, each attempt has read what is there. -/
theorem hasRead_run {es : List ProvisionEvent} (hes : .boot false ∉ es) :
    HasRead ((provisionMachine keys gatewayEui cs).run (Provisioning.init cs) es) := by
  induction es using List.reverseRecOn with
  | nil => trivial
  | append_singleton es e ih =>
    rw [List.mem_append, List.mem_singleton, not_or] at hes
    rw [Machine.run_snoc]
    exact hasRead_step gatewayEui (ih hes.1) (fun he => hes.2 he.symm)

/-- Saved credentials stay where every load reads the volume and no save is cut off. -/
theorem run_saved (es : List ProvisionEvent) {c : RootKeys}
    (hc : ((provisionMachine keys gatewayEui cs).run (Provisioning.init cs) es).disk d = some c) {fs : List ProvisionEvent}
    (hread : .boot false ∉ es ++ fs) (hwhole : .cutOff ∉ fs) :
    ((provisionMachine keys gatewayEui cs).run (Provisioning.init cs) (es ++ fs)).disk d = some c := by
  induction fs using List.reverseRecOn with
  | nil => rwa [List.append_nil]
  | append_singleton fs e ih =>
    rw [← List.append_assoc] at hread ⊢
    rw [List.mem_append, not_or] at hread
    rw [List.mem_append, List.mem_singleton, not_or] at hwhole
    rw [Machine.run_snoc]
    exact step_saved gatewayEui (inv_run cs keys gatewayEui d (es ++ fs)) (hasRead_run cs keys gatewayEui hread.1)
      (ih hread.1 hwhole.1) (fun he => hwhole.2 he.symm)

/-- However the simulator and ChirpStack fare, with requests that fail, answers that are lost, retries, restarts, loads that read
nothing and saves that are cut off: a device with saved credentials has a key at ChirpStack, and the two are the same exactly if no
attempt was given up, or cut off in its save, that left a key of the device behind, and none saved over credentials it had not read.
The key never changes again; nor do the credentials where every load reads the volume and no save is cut off. -/
theorem provisioned_keys (es : List ProvisionEvent) :
    (∀ c, ((provisionMachine keys gatewayEui cs).run (Provisioning.init cs) es).disk d = some c →
      ∃ k, cs.key ((provisionMachine keys gatewayEui cs).run (Provisioning.init cs) es).server d = some k ∧
        (k = c.appKey ↔ LeftNone cs keys gatewayEui d es)) ∧
    (∀ k, cs.key ((provisionMachine keys gatewayEui cs).run (Provisioning.init cs) es).server d = some k →
      ∀ fs, cs.key ((provisionMachine keys gatewayEui cs).run (Provisioning.init cs) (es ++ fs)).server d = some k) ∧
    (∀ c, ((provisionMachine keys gatewayEui cs).run (Provisioning.init cs) es).disk d = some c →
      ∀ fs, .boot false ∉ es ++ fs → .cutOff ∉ fs →
        ((provisionMachine keys gatewayEui cs).run (Provisioning.init cs) (es ++ fs)).disk d = some c) := by
  have h := inv_run cs keys gatewayEui d es
  refine ⟨?_, ?_, ?_⟩
  · intro c hc
    exact (h.keysOk.saved c hc).2.2
  · intro k hk fs
    rw [Machine.run_append]
    exact run_key cs keys gatewayEui d _ hk fs
  · intro c hc fs hread hwhole
    exact run_saved cs keys gatewayEui d es hc hread hwhole

end

/-- A ChirpStack that has keys only. -/
def keyring : ChirpStack where
  State := String → Option String
  empty := fun _ => none
  handle s
    | .postKeys devEui nwkKey => Function.update s devEui (some ((s devEui).getD nwkKey))
    | _ => s
  key s devEui := s devEui
  key_empty := by
    intro devEui
    rfl
  key_postKeys := by
    intro s devEui nwkKey devEui'
    simp only [Function.update_apply]
  key_other := by
    intro s c devEui' hc
    cases c with
    | postKeys devEui nwkKey => exact absurd rfl (hc devEui nwkKey)
    | _ => rfl

/-- Keys of zeros. -/
def zeros : KeySource :=
  ⟨fun n => String.ofList (List.replicate n '0'), fun m n h => by simpa using congrArg String.length h⟩

/-- A start, and an attempt whose requests are all answered, with a tenant and with the ids of what is there. -/
def answeredBoot : List ProvisionEvent :=
  .boot true :: List.replicate (7 + 2 * provisionFixtures.length) (ProvisionEvent.answered ⟨some [("tenant", "")], some "id"⟩)

/-- The keys are saved, and saved again in the next start, which is cut off; the one after that draws new ones. -/
def cutOffRun : List ProvisionEvent := answeredBoot ++ [.save, .crash] ++ answeredBoot ++ [.cutOff] ++ answeredBoot ++ [.save]

/-- The first device. -/
def firstDevice : String := (provisionFixtures.head (by decide)).1

/-- ChirpStack keeps the first key, and another is saved: a key was left behind. Without the save that was cut off none was. -/
theorem provisioned_keys_cut_off :
    LeftNone keyring zeros "" firstDevice (answeredBoot ++ [.save, .crash] ++ answeredBoot ++ [.save]) ∧
      ¬LeftNone keyring zeros "" firstDevice cutOffRun := by
  constructor
  · have hkey : ((provisionMachine zeros "" keyring).run (Provisioning.init keyring)
        (answeredBoot ++ [.save, .crash] ++ answeredBoot ++ [.save])).server firstDevice = some "" := by decide +kernel
    have hdisk : ((provisionMachine zeros "" keyring).run (Provisioning.init keyring)
        (answeredBoot ++ [.save, .crash] ++ answeredBoot ++ [.save])).disk firstDevice = some ⟨joinEUI, ""⟩ := by decide +kernel
    obtain ⟨k, hk, hagree⟩ := (provisioned_keys keyring zeros "" firstDevice _).1 _ hdisk
    exact hagree.1 (Option.some.inj (hk.symm.trans hkey))
  · have hkey : ((provisionMachine zeros "" keyring).run (Provisioning.init keyring) cutOffRun).server firstDevice = some "" := by
      decide +kernel
    have hdisk : ((provisionMachine zeros "" keyring).run (Provisioning.init keyring) cutOffRun).disk firstDevice =
        some ⟨joinEUI, zeros.1 provisionFixtures.length⟩ := by decide +kernel
    obtain ⟨k, hk, hagree⟩ := (provisioned_keys keyring zeros "" firstDevice cutOffRun).1 _ hdisk
    obtain rfl : k = "" := Option.some.inj (hk.symm.trans hkey)
    exact fun hnone => absurd (hagree.2 hnone) (by decide +kernel)

end AirQuality
