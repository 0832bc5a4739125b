import Gfal2.PluginInterface

/-! The S3 credentials of the HTTP plugin. The groups of the configuration that may hold them are gone through from the most
specific to the most general one, and a value that was found is kept for the groups that follow. The half of a pair under the
old names is kept so too, and the next group may complete it under the new ones. -/

namespace Gfal2

open Base

/-- A value of the configuration, with the place it was read from. -/
structure AwsSetting where
  group : CString
  key : CString
  value : CString
  deriving DecidableEq

/-- The values that are carried from group to group. -/
structure AwsKeys where
  secretKey : Option AwsSetting := none
  accessKey : Option AwsSetting := none
  token : Option AwsSetting := none
  region : Option AwsSetting := none

/-- What is set of the parameters of a request. The secret comes before the access key. -/
structure AwsParams where
  authorizationKeys : Option (AwsSetting × AwsSetting) := none
  token : Option AwsSetting := none
  region : Option AwsSetting := none
  alternate : Option Bool := none

section Groups

variable (config : Config)

/-- `gfal2_get_opt_string` without a default. -/
def awsSetting (group key : CString) : Option AwsSetting := (config.optString group key).map fun value => ⟨group, key, value⟩

def gfalHttpGetAwsKeys (group : CString) (keys : AwsKeys) : AwsKeys :=
  let keys : AwsKeys :=
    { secretKey := keys.secretKey.or (awsSetting config group (lit "SECRET_KEY"))
      accessKey := keys.accessKey.or (awsSetting config group (lit "ACCESS_KEY"))
      token := keys.token.or (awsSetting config group (lit "TOKEN"))
      region := keys.region.or (awsSetting config group (lit "REGION")) }
  -- for retro-compatibility
  if keys.accessKey = none ∨ keys.secretKey = none then
    { keys with
      accessKey := awsSetting config group (lit "ACCESS_TOKEN")
      secretKey := awsSetting config group (lit "ACCESS_TOKEN_SECRET") }
  else keys

/-- The pair, once both of its halves are there. -/
def AwsKeys.pair (keys : AwsKeys) : Option (AwsSetting × AwsSetting) :=
  keys.secretKey.bind fun secretKey => keys.accessKey.map fun accessKey => (secretKey, accessKey)

/-- One group of the loop. What is set once is not set again. -/
def awsStep (state : AwsKeys × AwsParams) (group : CString) : AwsKeys × AwsParams :=
  let keys := gfalHttpGetAwsKeys config group state.1
  (keys,
    { authorizationKeys := state.2.authorizationKeys.or keys.pair
      token := state.2.token.or keys.token
      region := state.2.region.or keys.region
      alternate := state.2.alternate.or (config.optBoolean group (lit "ALTERNATE")) })

/-- The groups for a host: its own, the one of the host without its first label, and the general one. -/
def awsGroupLabels (host : CString) : List CString :=
  [(lit "S3:" ++ host).map Char.toUpper] ++
    (match strchr host '.' with
      | some pos => [(lit "S3:" ++ host.drop (pos + 1)).map Char.toUpper]
      | none => []) ++
    [lit "S3"]

/-- `GfalHttpPluginData::get_aws_params`, with what it sets. -/
def getAwsParams (host : CString) : AwsParams := ((awsGroupLabels host).foldl (awsStep config) ({}, {})).2

/-! ### Matched pairs -/

/-- The pair of a group under two names, if it has both. -/
def pairNamed (secretName accessName group : CString) : Option (AwsSetting × AwsSetting) :=
  (awsSetting config group secretName).bind fun secretKey =>
    (awsSetting config group accessName).map fun accessKey => (secretKey, accessKey)

/-- The pair that a group defines completely, under the new names or else under the old ones. -/
def matchedPair (group : CString) : Option (AwsSetting × AwsSetting) :=
  (pairNamed config (lit "SECRET_KEY") (lit "ACCESS_KEY") group).or
    (pairNamed config (lit "ACCESS_TOKEN_SECRET") (lit "ACCESS_TOKEN") group)

/-- The half of a pair that a group leaves under an old name meets the other half under a new name in the next group. -/
def CompletedAcross (group next : CString) : Prop :=
  ((awsSetting config group (lit "ACCESS_TOKEN_SECRET")).isSome ∧ (awsSetting config next (lit "ACCESS_KEY")).isSome) ∨
    ((awsSetting config group (lit "ACCESS_TOKEN")).isSome ∧ (awsSetting config next (lit "SECRET_KEY")).isSome)

/-- Up to the first group with a pair of its own, no group completes what the one before it left. -/
def KeptApart : List CString → Prop
  | group :: next :: rest => matchedPair config group = none → ¬CompletedAcross config group next ∧ KeptApart (next :: rest)
  | _ => True

/-- The pair that is handed to the request is the one of the most specific group that defines one. -/
def AwsKeysMatched (host : CString) : Prop :=
  (getAwsParams config host).authorizationKeys = (awsGroupLabels host).findSome? (matchedPair config)

end Groups

/-! ### The loop -/

section Loop

variable {config : Config} {group : CString} {pair : AwsSetting × AwsSetting}

theorem awsSetting_key {key : CString} {setting : AwsSetting} (h : awsSetting config group key = some setting) :
    setting.key = key := by
  obtain ⟨value, -, rfl⟩ := Option.map_eq_some_iff.mp h
  rfl

theorem pairNamed_keys {secretName accessName : CString}
    (h : pairNamed config secretName accessName group = some pair) : pair.1.key = secretName ∧ pair.2.key = accessName := by
  obtain ⟨secretKey, hsecret, h⟩ := Option.bind_eq_some_iff.mp h
  obtain ⟨accessKey, haccess, rfl⟩ := Option.map_eq_some_iff.mp h
  exact ⟨awsSetting_key hsecret, awsSetting_key haccess⟩

/-- The two halves of a matched pair have names of one scheme. -/
theorem matchedPair_keys (h : matchedPair config group = some pair) :
    (pair.1.key = lit "SECRET_KEY" ∧ pair.2.key = lit "ACCESS_KEY") ∨
      (pair.1.key = lit "ACCESS_TOKEN_SECRET" ∧ pair.2.key = lit "ACCESS_TOKEN") := by
  unfold matchedPair at h
  cases hnew : pairNamed config (lit "SECRET_KEY") (lit "ACCESS_KEY") group with
  | some found =>
      rw [hnew, Option.some_or] at h
      cases h
      exact .inl (pairNamed_keys hnew)
  | none =>
      rw [hnew, Option.none_or] at h
      exact .inr (pairNamed_keys h)

/-- The halves that are carried, of which there is at most one. -/
def Carries (secretKey accessKey : Option AwsSetting) (keys : AwsKeys) : Prop :=
  keys.secretKey = secretKey ∧ keys.accessKey = accessKey ∧ keys.pair = none

variable {keys : AwsKeys} {secretKey accessKey : Option AwsSetting}

/-- A group that does not complete what is carried hands out its own pair, or leaves its own half. -/
theorem getAwsKeys_apart (h : Carries secretKey accessKey keys)
    (hsecret : ¬(secretKey.isSome ∧ (awsSetting config group (lit "ACCESS_KEY")).isSome))
    (haccess : ¬(accessKey.isSome ∧ (awsSetting config group (lit "SECRET_KEY")).isSome)) :
    (gfalHttpGetAwsKeys config group keys).pair = matchedPair config group ∧
      (matchedPair config group = none → Carries (awsSetting config group (lit "ACCESS_TOKEN_SECRET"))
        (awsSetting config group (lit "ACCESS_TOKEN")) (gfalHttpGetAwsKeys config group keys)) := by
  obtain ⟨rfl, rfl, hpair⟩ := h
  unfold Carries gfalHttpGetAwsKeys matchedPair pairNamed AwsKeys.pair at *
  generalize awsSetting config group (lit "ACCESS_KEY") = newAccess at *
  generalize awsSetting config group (lit "SECRET_KEY") = newSecret at *
  generalize awsSetting config group (lit "ACCESS_TOKEN") = oldAccess
  generalize awsSetting config group (lit "ACCESS_TOKEN_SECRET") = oldSecret
  generalize keys.secretKey = secretKey at *
  generalize keys.accessKey = accessKey at *
  cases secretKey <;> cases accessKey <;> cases newAccess <;> cases newSecret <;> cases oldAccess <;> cases oldSecret <;>
    simp at hpair hsecret haccess ⊢

/-- A half that is completed across two groups makes a pair that matches in no group. -/
theorem getAwsKeys_across (h : Carries (awsSetting config group (lit "ACCESS_TOKEN_SECRET"))
      (awsSetting config group (lit "ACCESS_TOKEN")) keys) {next : CString} (hacross : CompletedAcross config group next) :
    ∃ pair, (gfalHttpGetAwsKeys config next keys).pair = some pair ∧ ∀ other, matchedPair config other ≠ some pair := by
  obtain ⟨hsecret, haccess, hpair⟩ := h
  unfold AwsKeys.pair at hpair
  rcases hacross with ⟨hold, hnew⟩ | ⟨hold, hnew⟩
  · obtain ⟨old, hold⟩ := Option.isSome_iff_exists.mp hold
    obtain ⟨new, hnew⟩ := Option.isSome_iff_exists.mp hnew
    have hnone : keys.accessKey = none := by
      cases hkept : keys.accessKey with
      | none => rfl
      | some kept => simp [hsecret, hold, hkept] at hpair
    refine ⟨(old, new), by simp [gfalHttpGetAwsKeys, AwsKeys.pair, hsecret, hold, hnone, hnew], fun other hother => ?_⟩
    rcases matchedPair_keys hother with ⟨hkey, -⟩ | ⟨-, hkey⟩
    · rw [awsSetting_key hold] at hkey
      exact absurd hkey (by decide)
    · rw [awsSetting_key hnew] at hkey
      exact absurd hkey (by decide)
  · obtain ⟨old, hold⟩ := Option.isSome_iff_exists.mp hold
    obtain ⟨new, hnew⟩ := Option.isSome_iff_exists.mp hnew
    have hnone : keys.secretKey = none := by
      cases hkept : keys.secretKey with
      | none => rfl
      | some kept => simp [haccess, hold, hkept] at hpair
    refine ⟨(new, old), by simp [gfalHttpGetAwsKeys, AwsKeys.pair, haccess, hold, hnone, hnew], fun other hother => ?_⟩
    rcases matchedPair_keys hother with ⟨-, hkey⟩ | ⟨hkey, -⟩
    · rw [awsSetting_key hold] at hkey
      exact absurd hkey (by decide)
    · rw [awsSetting_key hnew] at hkey
      exact absurd hkey (by decide)

theorem foldl_awsStep_of_some (groups : List CString) {state : AwsKeys × AwsParams}
    (h : state.2.authorizationKeys = some pair) : (groups.foldl (awsStep config) state).2.authorizationKeys = some pair := by
  induction groups generalizing state with
  | nil => exact h
  | cons group rest ih =>
      refine ih ?_
      rw [awsStep, h, Option.some_or]

variable {params : AwsParams}

/-- The groups from one on that does not complete what is carried. -/
theorem foldl_awsStep_apart (h : Carries secretKey accessKey keys) (hparams : params.authorizationKeys = none)
    (hsecret : ¬(secretKey.isSome ∧ (awsSetting config group (lit "ACCESS_KEY")).isSome))
    (haccess : ¬(accessKey.isSome ∧ (awsSetting config group (lit "SECRET_KEY")).isSome)) (rest : List CString) :
    ((group :: rest).foldl (awsStep config) (keys, params)).2.authorizationKeys =
        (group :: rest).findSome? (matchedPair config) ↔ KeptApart config (group :: rest) := by
  induction rest generalizing group keys params secretKey accessKey with
  | nil =>
      obtain ⟨hpair, -⟩ := getAwsKeys_apart h hsecret haccess
      refine iff_of_true ?_ trivial
      rw [List.foldl_cons, List.foldl_nil, awsStep, hparams, Option.none_or, hpair, List.findSome?_singleton]
  | cons next rest ih =>
      obtain ⟨hpair, hcarried⟩ := getAwsKeys_apart h hsecret haccess
      rw [List.foldl_cons, List.findSome?_cons, KeptApart]
      cases hmatched : matchedPair config group with
      | some pair =>
          refine iff_of_true (foldl_awsStep_of_some _ ?_) (fun hnone => by cases hnone)
          rw [awsStep, hparams, Option.none_or, hpair, hmatched]
      | none =>
          have hnext := hcarried hmatched
          have hnone : (awsStep config (keys, params) group).2.authorizationKeys = none := by
            rw [awsStep, hparams, Option.none_or, hpair, hmatched]
          simp only [forall_const]
          by_cases hacross : CompletedAcross config group next
          · refine iff_of_false (fun heq => ?_) fun hboth => hboth.1 hacross
            obtain ⟨pair, hmixed, hother⟩ := getAwsKeys_across hnext hacross
            rw [List.foldl_cons, @foldl_awsStep_of_some config pair rest] at heq
            · obtain ⟨other, -, hfound⟩ := List.exists_of_findSome?_eq_some heq.symm
              exact hother other hfound
            · rw [awsStep, hnone, Option.none_or]
              exact hmixed
          · rw [and_iff_right hacross]
            exact ih hnext hnone (fun hboth => hacross (.inl hboth)) fun hboth => hacross (.inr hboth)

end Loop

/-- The keys of a request are a pair of one group and one scheme, the right one, just where no group that comes before a
matched pair is completed by the next one. -/
theorem aws_keys_matched_iff (config : Config) (host : CString) :
    AwsKeysMatched config host ↔ KeptApart config (awsGroupLabels host) :=
  have hstart : Carries none none {} := ⟨rfl, rfl, rfl⟩
  foldl_awsStep_apart hstart rfl (by simp) (by simp) _

/-- A host with the old name of a secret, below a general pair. -/
def halfConfigured : Config where
  optString group key :=
    if group = lit "S3:CERN.CH" ∧ key = lit "ACCESS_TOKEN_SECRET" then some (lit "old")
    else if group = lit "S3" then
      if key = lit "SECRET_KEY" then some (lit "secret") else if key = lit "ACCESS_KEY" then some (lit "access") else none
    else none

/-- The halves of two groups are handed out together. -/
theorem secret_paired_across_groups : ¬∀ config host, AwsKeysMatched config host := by
  intro h
  have hmatched := h halfConfigured (lit "s3.cern.ch")
  unfold AwsKeysMatched at hmatched
  revert hmatched
  decide

end Gfal2
