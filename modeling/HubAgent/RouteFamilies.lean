import HubAgent.Lib.StrParts
import HubAgent.Hub
/-!
# The two route families (`hub.rs`, `SPEC.md` Endpoint Comparison)

Every operation of the Hub has a route of the legacy family and one of the API family, under two bases that differ by one
`/api`.  The base that `HUB_URL` names is tried first.  All that is kept for every URL but the relation of the bases:
from a URL that ends in `/api` twice, both are cut off (`families_iff`).
-/
namespace HubAgent
namespace Hub

/-- The operations, with what their routes are told. -/
inductive Operation where
  | inventory
  | poll (waitSecs : Nat)
  | status
  | ack (commandId : String)

namespace Operation

/-- Behind the base of the legacy family. -/
def legacyPath (clusterId : String) : Operation → String
  | inventory => s!"/v1/clusters/{clusterId}/inventory"
  | poll waitSecs => s!"/v1/clusters/{clusterId}/commands/poll?wait={waitSecs}s"
  | status => s!"/v1/clusters/{clusterId}"
  | ack commandId => s!"/v1/clusters/{clusterId}/commands/{commandId}/ack"

/-- Behind the base of the API family, which has a path of its own for the inventory. -/
def apiPath (clusterId : String) : Operation → String
  | inventory => "/v1/agent/ingest"
  | op => legacyPath clusterId op

def urls (r : HubRoutes) (clusterId : String) : Operation → List String
  | inventory => r.inventoryUrls clusterId
  | poll waitSecs => r.pollUrls clusterId waitSecs
  | status => r.clusterStatusUrls clusterId
  | ack commandId => r.ackUrls clusterId commandId

theorem urls_eq (r : HubRoutes) (clusterId : String) (op : Operation) :
    op.urls r clusterId = r.ordered (r.legacyBase ++ op.legacyPath clusterId) (r.apiBase ++ op.apiPath clusterId) := by
  have hthree : ∀ a b c d : String, a ++ b ++ c ++ d = a ++ (b ++ c ++ d) := fun a b c d => by
    simp only [String.append_assoc]
  have hfive : ∀ a b c d e f : String, a ++ b ++ c ++ d ++ e ++ f = a ++ (b ++ c ++ d ++ e ++ f) := fun a b c d e f => by
    simp only [String.append_assoc]
  cases op with
  | inventory => exact congrArg₂ r.ordered (hthree _ _ _ _) rfl
  | poll waitSecs => exact congrArg₂ r.ordered (hfive _ _ _ _ _ _) (hfive _ _ _ _ _ _)
  | status => exact congrArg₂ r.ordered String.append_assoc String.append_assoc
  | ack commandId => exact congrArg₂ r.ordered (hfive _ _ _ _ _ _) (hfive _ _ _ _ _ _)

end Operation

/-! ## The bases -/

/-- The URL names the API family. -/
def NamesApi (cfg : Config) : Prop := "/api".toList <:+ cfg.hubUrl.toList

instance (cfg : Config) : Decidable (NamesApi cfg) := inferInstanceAs (Decidable (_ <:+ _))

/-- Two bases that differ by one `/api`, and of each operation a route of either family, the one named first. -/
structure Families (cfg : Config) (clusterId : String) : Prop where
  bases : (HubRoutes.new cfg).apiBase = (HubRoutes.new cfg).legacyBase ++ "/api"
  urls : ∀ op : Operation, ∃ legacy api, legacy ≠ api ∧
    legacy = (HubRoutes.new cfg).legacyBase ++ op.legacyPath clusterId ∧
    api = (HubRoutes.new cfg).apiBase ++ op.apiPath clusterId ∧
    op.urls (HubRoutes.new cfg) clusterId = if NamesApi cfg then [api, legacy] else [legacy, api]

theorem new_of_namesApi {cfg : Config} (h : NamesApi cfg) : HubRoutes.new cfg =
    { legacyBase := String.ofList (RustStr.trimEndMatches "/api".toList cfg.hubUrl.toList)
      apiBase := cfg.hubUrl, preferApi := true } := by
  rw [HubRoutes.new, if_pos (List.isSuffixOf_iff_suffix.2 h)]

theorem new_of_not_namesApi {cfg : Config} (h : ¬ NamesApi cfg) : HubRoutes.new cfg =
    { legacyBase := cfg.hubUrl, apiBase := s!"{cfg.hubUrl}/api", preferApi := false } := by
  rw [HubRoutes.new, if_neg (fun hsuffix => h (List.isSuffixOf_iff_suffix.1 hsuffix))]

theorem preferApi_eq (cfg : Config) : (HubRoutes.new cfg).preferApi = decide (NamesApi cfg) := by
  by_cases h : NamesApi cfg
  · rw [new_of_namesApi h, decide_eq_true h]
  · rw [new_of_not_namesApi h, decide_eq_false h]

/-- The legacy base is the shorter one, however often `/api` is cut off. -/
theorem length_legacyBase_lt (cfg : Config) :
    (HubRoutes.new cfg).legacyBase.length < (HubRoutes.new cfg).apiBase.length := by
  by_cases h : NamesApi cfg
  · rw [new_of_namesApi h]
    obtain ⟨rest, hrest⟩ := h
    have hcut := RustStr.length_trimEndMatchesUpTo_le "/api".toList (rest.length + "/api".toList.length - 1) rest
    rw [← RustStr.trimEndMatches_append (by decide), hrest] at hcut
    have hurl := congrArg List.length hrest
    rw [List.length_append] at hurl
    have hapi : "/api".toList.length = 4 := by decide
    show (String.ofList _).length < cfg.hubUrl.length
    rw [String.length_ofList, ← String.length_toList]
    omega
  · rw [new_of_not_namesApi h]
    show cfg.hubUrl.length < (cfg.hubUrl ++ "/api").length
    rw [String.length_append]
    exact Nat.lt_add_of_pos_right (by decide)

/-- **The bases differ by one `/api`** unless the URL ends in it twice. -/
theorem apiBase_eq_iff (cfg : Config) : (HubRoutes.new cfg).apiBase = (HubRoutes.new cfg).legacyBase ++ "/api" ↔
    ¬ "/api/api".toList <:+ cfg.hubUrl.toList := by
  by_cases h : NamesApi cfg
  · rw [new_of_namesApi h]
    show cfg.hubUrl = String.ofList (RustStr.trimEndMatches "/api".toList cfg.hubUrl.toList) ++ "/api" ↔ _
    obtain ⟨rest, hrest⟩ := h
    have htwice : "/api/api".toList <:+ cfg.hubUrl.toList ↔ "/api".toList <:+ rest := by
      have hdouble : "/api/api".toList = "/api".toList ++ "/api".toList := by decide
      rw [← hrest, hdouble]
      constructor
      · rintro ⟨before, heq⟩
        rw [← List.append_assoc] at heq
        exact ⟨before, List.append_cancel_right heq⟩
      · rintro ⟨before, rfl⟩
        exact ⟨before, (List.append_assoc _ _ _).symm⟩
    rw [htwice, ← RustStr.trimEndMatches_append_eq_iff (by decide), hrest]
    rw [String.ext_iff, String.toList_append, String.toList_ofList, ← hrest]
    constructor
    · exact fun heq => (List.append_cancel_right heq).symm
    · exact fun heq => by rw [heq]
  · rw [new_of_not_namesApi h]
    refine iff_of_true rfl fun htwice => h ?_
    have hlast : "/api".toList <:+ "/api/api".toList := by decide
    exact hlast.trans htwice

/-! ## The routes -/

theorem routes_differ (cfg : Config) (clusterId : String) (op : Operation) :
    (HubRoutes.new cfg).legacyBase ++ op.legacyPath clusterId ≠ (HubRoutes.new cfg).apiBase ++ op.apiPath clusterId := by
  have hshorter := length_legacyBase_lt cfg
  have hsame : ∀ path : String,
      (HubRoutes.new cfg).legacyBase ++ path ≠ (HubRoutes.new cfg).apiBase ++ path := fun path heq => by
    have hlength := congrArg String.length heq
    rw [String.length_append, String.length_append] at hlength
    omega
  cases op with
  | inventory =>
    intro heq
    have hlegacy : ((HubRoutes.new cfg).legacyBase ++ Operation.inventory.legacyPath clusterId).toList.getLast? = some 'y' := by
      show ((HubRoutes.new cfg).legacyBase ++ ("/v1/clusters/" ++ clusterId ++ "/inventory")).toList.getLast? = _
      rw [String.toList_append, String.toList_append, ← List.append_assoc, List.getLast?_append_of_ne_nil _ (by decide)]
      rfl
    have hapi : ((HubRoutes.new cfg).apiBase ++ Operation.inventory.apiPath clusterId).toList.getLast? = some 't' := by
      show ((HubRoutes.new cfg).apiBase ++ "/v1/agent/ingest").toList.getLast? = _
      rw [String.toList_append, List.getLast?_append_of_ne_nil _ (by decide)]
      rfl
    rw [heq, hapi] at hlegacy
    exact absurd hlegacy (by decide)
  | poll waitSecs => exact hsame _
  | status => exact hsame _
  | ack commandId => exact hsame _

/-- **Every operation has its two routes**, the one that the URL names first. -/
theorem urls_pair (cfg : Config) (clusterId : String) (op : Operation) : ∃ legacy api, legacy ≠ api ∧
    legacy = (HubRoutes.new cfg).legacyBase ++ op.legacyPath clusterId ∧
    api = (HubRoutes.new cfg).apiBase ++ op.apiPath clusterId ∧
    op.urls (HubRoutes.new cfg) clusterId = if NamesApi cfg then [api, legacy] else [legacy, api] := by
  have hne := routes_differ cfg clusterId op
  refine ⟨_, _, hne, rfl, rfl, ?_⟩
  rw [Operation.urls_eq, HubRoutes.ordered, preferApi_eq, dedupeUrls_pair hne, dedupeUrls_pair hne.symm]
  simp only [decide_eq_true_eq]

/-- **The families are as they should be exactly when the URL does not end in `/api` twice.** -/
theorem families_iff (cfg : Config) (clusterId : String) :
    Families cfg clusterId ↔ ¬ "/api/api".toList <:+ cfg.hubUrl.toList := by
  rw [← apiBase_eq_iff]
  exact ⟨fun h => h.bases, fun h => ⟨h, urls_pair cfg clusterId⟩⟩

/-- Behind a path that ends in `/api` already, the legacy base is `https://gateway`. -/
theorem nestedApi_legacy : ¬ ∀ (cfg : Config) (clusterId : String), Families cfg clusterId := by
  intro h
  have hbases := (h { clusterId := "c", hubUrl := "https://gateway/api/api" } "c").bases
  exact absurd hbases (by decide +kernel)

end Hub
end HubAgent
