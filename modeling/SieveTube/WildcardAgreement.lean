import SieveTube.Certificate.Resolver
import SieveTube.Policy.Plugins

/-!
# Wildcard rules of the lookups and of the plugins

The policy of a domain and the certificate of a name are looked up by key,
while plugins are matched pattern by pattern.  Both ways find the same
entries except below a wildcard for a whole top-level domain, which
normalization accepts and the lookups never ask for.
-/

namespace SieveTube

open Hostname

/-- The lookup finds an entry exactly if a key matches, and the exact name
comes first. -/
def LookupAgrees {Value : Type u} (table : AList fun _ : String => Value)
    (found : Option Value) (hostname : String) : Prop :=
  (found.isSome ↔ ∃ key ∈ table, matchesPattern key hostname = true) ∧
    ∀ value, table.lookup hostname = some value → found = some value

/-- The hostname has two labels, and the only key for it is the wildcard
directly below its top-level domain. -/
def OnlyBelowTopLevel {Value : Type u}
    (table : AList fun _ : String => Value) (hostname : String) : Prop :=
  hostname ∉ table ∧ ∃ first rest : List Char,
      hostname.toList = first ++ '.' :: rest ∧ '.' ∉ first ∧ '.' ∉ rest ∧
      String.ofList ('*' :: '.' :: rest) ∈ table

variable {Value : Type u} {hostname : String}
variable {table : AList fun _ : String => Value}

theorem exists_matchesPattern_iff
    (normalized : Normalized false false hostname.toList) :
    (∃ key ∈ table, matchesPattern key hostname = true) ↔
      (findPattern table hostname).isSome ∨
        OnlyBelowTopLevel table hostname := by
  constructor
  · rintro ⟨key, member, matched⟩
    by_cases listed : hostname ∈ table
    · exact .inl (findPattern_isSome_iff.mpr (.inl listed))
    · rcases matchesPattern_iff.mp matched with
        rfl | ⟨first, rest, shape, whole, clear, -, -⟩
      · exact absurd member listed
      · by_cases dotted : '.' ∈ rest
        · exact .inl (findPattern_isSome_iff.mpr
            (.inr ⟨key, member, wildcardFor_eq_some_iff.mpr
              ⟨first, rest, shape, whole, clear, dotted⟩⟩))
        · refine .inr ⟨listed, first, rest, whole, clear, dotted, ?_⟩
          rw [← shape, String.ofList_toList]
          exact member
  · rintro (found | ⟨-, first, rest, whole, clear, -, member⟩)
    · rcases findPattern_isSome_iff.mp found with
        member | ⟨key, member, wildcard⟩
      · exact ⟨hostname, member, matchesPattern_iff.mpr (.inl rfl)⟩
      · exact ⟨key, member, (matchesPattern_iff_covers normalized).mpr
          (covers_of_wildcardFor normalized wildcard)⟩
    · refine ⟨_, member, (matchesPattern_iff_covers normalized).mpr ?_⟩
      rw [whole] at normalized
      exact .inr ⟨first, rest, by simp, whole, clear, normalized.first_ne_nil⟩

theorem not_isSome_of_onlyBelowTopLevel
    (below : OnlyBelowTopLevel table hostname) :
    ¬ (findPattern table hostname).isSome := by
  obtain ⟨absent, first, rest, whole, clear, undotted, -⟩ := below
  intro found
  rcases findPattern_isSome_iff.mp found with member | ⟨key, -, wildcard⟩
  · exact absent member
  · obtain ⟨other, others, -, otherWhole, otherClear, dotted⟩ :=
      wildcardFor_eq_some_iff.mp wildcard
    have split := Text.splitOnce_eq_some_iff.mpr ⟨whole, clear⟩
    rw [Text.splitOnce_eq_some_iff.mpr ⟨otherWhole, otherClear⟩] at split
    cases split
    exact undotted dotted

theorem lookupAgrees_findPattern_iff
    (normalized : Normalized false false hostname.toList) :
    LookupAgrees table (findPattern table hostname) hostname ↔
      ¬ OnlyBelowTopLevel table hostname := by
  unfold LookupAgrees
  rw [exists_matchesPattern_iff normalized]
  constructor
  · rintro ⟨agrees, -⟩ below
    exact not_isSome_of_onlyBelowTopLevel below (agrees.mpr (.inr below))
  · intro above
    exact ⟨by simp [above], fun value => findPattern_of_lookup⟩

theorem CompiledPolicy.domain_eq_findPattern (policy : CompiledPolicy) :
    policy.domain hostname = findPattern policy.domains hostname := by
  unfold CompiledPolicy.domain findPattern
  cases policy.domains.lookup hostname <;> rfl

/-- The lookups of policies and of certificates agree with the rule for
plugins exactly unless all that matches is the wildcard of a top-level
domain. -/
theorem lookups_agree_iff {SigningKey : Type} (policy : CompiledPolicy)
    (resolver : Certificate.CertResolver SigningKey) {input hostname : String}
    (normalized : normalizeHostname input = .ok hostname) :
    (LookupAgrees policy.domains (policy.domain hostname) hostname ↔
      ¬ OnlyBelowTopLevel policy.domains hostname) ∧
    (LookupAgrees resolver.entries (resolver.lookup hostname) hostname ↔
      ¬ OnlyBelowTopLevel resolver.entries hostname) := by
  have normal : Normalized false false hostname.toList :=
    normalized_of_normalize normalized
  rw [policy.domain_eq_findPattern]
  exact ⟨lookupAgrees_findPattern_iff normal,
    lookupAgrees_findPattern_iff normal⟩

/-- A policy with a rate for one pattern. -/
def onePattern (pattern : String) : CompiledPolicy :=
  { enabled := true
    mode := .enforce
    blocked := []
    httpRate := none
    key := .clientIp
    domains := AList.singleton pattern
      { mode := none, blocked := [], httpRate := some
          { perSecond := 1, burst := 1
            perSecond_pos := by norm_num
            burst_pos := by norm_num } }
    maxEntries := 10
    idleTtl := 60 }

/-- A resolver with one certificate, for a pattern that it names. -/
def oneCertificate (pattern : String)
    (covers : Certificate.covered [pattern] pattern = true) :
    Certificate.CertResolver Unit :=
  { entries := AList.singleton pattern
      { name := pattern
        source := .byoc
        certifiedKey := { cert := [[1]], key := () }
        notBefore := 0
        notAfter := 100
        dnsNames := [pattern]
        fingerprint := "01"
        generation := none
        covers }
    managed := ∅ }

theorem lookups_agree_three_labels :
    LookupAgrees (onePattern "*.example.com").domains
        ((onePattern "*.example.com").domain "a.example.com")
        "a.example.com" ∧
      LookupAgrees (oneCertificate "*.example.com" (by decide +kernel)).entries
        ((oneCertificate "*.example.com" (by decide +kernel)).lookup
          "a.example.com") "a.example.com" := by
  have above : ∀ {Value : Type} (table : AList fun _ : String => Value),
      ¬ OnlyBelowTopLevel table "a.example.com" := by
    rintro Value table ⟨-, first, rest, whole, clear, undotted, -⟩
    have split := Text.splitOnce_eq_some_iff.mpr ⟨whole, clear⟩
    have parts : Text.splitOnce '.' "a.example.com".toList =
        some (['a'], "example.com".toList) := by
      decide
    cases split
    exact undotted (by decide)
  have both := lookups_agree_iff (onePattern "*.example.com")
    (oneCertificate "*.example.com" (by decide +kernel))
    (show normalizeHostname "a.example.com" = .ok "a.example.com" from rfl)
  exact ⟨both.1.mpr (above _), both.2.mpr (above _)⟩

/-- `*.internal` is accepted as a pattern and applies a plugin to
`app.internal`, but neither lookup finds it for that name. -/
theorem top_level_wildcard_missed :
    (normalizeHostnamePattern "*.internal").toOption = some "*.internal" ∧
    (normalizeHostname "app.internal").toOption = some "app.internal" ∧
    matchesPattern "*.internal" "app.internal" = true ∧
    "*.internal" ∈ (onePattern "*.internal").domains ∧
    ((onePattern "*.internal").domain "app.internal").isSome = false ∧
    "*.internal" ∈ (oneCertificate "*.internal" (by decide +kernel)).entries ∧
    ((oneCertificate "*.internal" (by decide +kernel)).lookup
      "app.internal").isSome = false := by
  decide +kernel

end SieveTube
