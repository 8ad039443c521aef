import WaffleFinance.Sdk.HistoryClient

/-!
# Two checks of an announcement

The coordinator checks an announcement by a schema: the shape of the fields, then the route, then
the addresses.  The SDK has a check of its own, which collects what is wrong in one pass.  They
accept the same values (`validators_agree`).  The texts of the messages are left out.
-/

namespace WaffleFinance

open Lib.Json

/-- A member of `v`, if it is a string. -/
def stringField (v : Value) (name : String) : Option String :=
  match v.member name.toList with
  | some (.string t) => some (String.ofList t)
  | _ => none

def isDecimalInt (t : String) : Bool := t ≠ "" && t.toList.all Char.isDigit

/-- The address has the form of the chain; `other` is for a chain that is none of the three. -/
def isChainAddress (other : Bool) (chain addr : String) : Bool :=
  if chain = "ethereum" then
    Sdk.isHexAddress addr.toList && Coordinator.toLowerCase addr.toList ≠ Sdk.zeroAddress
  else if chain = "stellar" then Sdk.isStellarAddress addr.toList
  else if chain = "solana" then Sdk.isSolanaAddress addr.toList
  else other

namespace Coordinator

/-! ### The schema -/

def policyDirectionChains : List (String × String × String) :=
  [("eth_to_xlm", "ethereum", "stellar"), ("xlm_to_eth", "stellar", "ethereum"),
    ("eth_to_sol", "ethereum", "solana"), ("sol_to_eth", "solana", "ethereum")]

/-- The chains without a way to settle.  None, as shipped. -/
def placeholderChains : List String := []

inductive RouteDenialCode where
  | directionUnsupported
  | directionBlocked
  | chainMismatch
  | sameChainRoute

/-- The chains of the route, or what is against it and the field that this is about. -/
def checkRoutePolicy (direction srcChain dstChain : String) :
    Except (RouteDenialCode × String) (String × String) :=
  match policyDirectionChains.lookup direction with
  | none => .error (.directionUnsupported, "direction")
  | some entry =>
    if entry.1 ∈ placeholderChains ∨ entry.2 ∈ placeholderChains then
      .error (.directionBlocked, "direction")
    else if srcChain = dstChain then .error (.sameChainRoute, "dstChain")
    else if srcChain ≠ entry.1 then .error (.chainMismatch, "srcChain")
    else if dstChain ≠ entry.2 then .error (.chainMismatch, "dstChain")
    else .ok entry

def validateChainAddress : String → String → Bool := isChainAddress true

/-- An issue that aborts, a wrong type or a value outside an enumeration, keeps the schema from
looking at the fields together. -/
structure SchemaIssue where
  path : String
  aborts : Bool
  routePolicyCode : Option RouteDenialCode

def shapeField (v : Value) (name : String) (aborts : Bool) (ok : String → Bool) :
    List SchemaIssue :=
  match stringField v name with
  | none => [⟨name, true, none⟩]
  | some t => if ok t then [] else [⟨name, aborts, none⟩]

def announceShape (v : Value) : List SchemaIssue :=
  shapeField v "direction" true (· ∈ ["eth_to_xlm", "xlm_to_eth", "eth_to_sol", "sol_to_eth"]) ++
    shapeField v "hashlock" false (isHashlock ·.toList) ++
    shapeField v "srcChain" true (· ∈ ["ethereum", "stellar", "solana"]) ++
    shapeField v "srcAddress" false (fun _ => true) ++
    shapeField v "srcAsset" false (· ≠ "") ++
    shapeField v "srcAmount" false isDecimalInt ++
    shapeField v "srcSafetyDeposit" false isDecimalInt ++
    shapeField v "dstChain" true (· ∈ ["ethereum", "stellar", "solana"]) ++
    shapeField v "dstAddress" false (fun _ => true) ++
    shapeField v "dstAsset" false (· ≠ "") ++
    shapeField v "dstAmount" false isDecimalInt

def addressIssue (path chain addr : String) : List SchemaIssue :=
  if validateChainAddress chain addr then [] else [⟨path, false, none⟩]

/-- The route and, if it is allowed, the addresses. -/
def superRefine (input : String → String) : List SchemaIssue :=
  match checkRoutePolicy (input "direction") (input "srcChain") (input "dstChain") with
  | .error denial => [⟨denial.2, false, some denial.1⟩]
  | .ok _ => addressIssue "srcAddress" (input "srcChain") (input "srcAddress") ++
      addressIssue "dstAddress" (input "dstChain") (input "dstAddress")

/-- What the schema has against `v`: the value is accepted if this is nothing. -/
def announceSchema : Value → List SchemaIssue
  | .object members =>
    announceShape (.object members) ++
      if (announceShape (.object members)).any SchemaIssue.aborts then []
      else superRefine fun name => (stringField (.object members) name).getD ""
  | _ => [⟨"", true, none⟩]

end Coordinator

namespace Sdk

open Coordinator

/-! ### The check in the SDK -/

def routeChainDirections : List (String × String × String) :=
  [("eth_to_xlm", "ethereum", "stellar"), ("xlm_to_eth", "stellar", "ethereum"),
    ("eth_to_sol", "ethereum", "solana"), ("sol_to_eth", "solana", "ethereum"),
    ("xlm_to_sol", "stellar", "solana"), ("sol_to_xlm", "solana", "stellar")]

def liveRouteDirections : List String := ["eth_to_xlm", "xlm_to_eth", "eth_to_sol", "sol_to_eth"]

def supportedChains : List String :=
  (routeChainDirections.flatMap fun route => [route.2.1, route.2.2]).eraseDups

def validateChainAddress : String → String → Bool := isChainAddress false

def requiredField (v : Value) (field : String) (ok : String → Bool) : List String :=
  if (stringField v field).any ok then [] else [field]

/-- The chains that are not those of the direction. -/
def misaligned (direction srcChain dstChain : String) : List String :=
  match routeChainDirections.lookup direction with
  | none => []
  | some want =>
    (if srcChain ≠ want.1 then ["srcChain"] else []) ++
      if dstChain ≠ want.2 then ["dstChain"] else []

/-- The address is looked at only if its chain is known. -/
def addressField (v : Value) (chain field : String) : List String :=
  requiredField v field fun addr => addr ≠ "" && (stringField v chain).all fun c =>
    c ∉ supportedChains || validateChainAddress c addr

/-- The fields with an issue, as they are found: the request is ok if there are none. -/
def validateAnnounceRequest (v : Value) : List String :=
  match v with
  | .object _ | .array _ =>
    requiredField v "direction" (· ∈ liveRouteDirections) ++
      requiredField v "hashlock" (isHashlock ·.toList) ++
      requiredField v "srcChain" (· ∈ supportedChains) ++
      requiredField v "dstChain" (· ∈ supportedChains) ++
      (match stringField v "direction", stringField v "srcChain", stringField v "dstChain" with
        | some d, some s, some t =>
          if d ∈ liveRouteDirections ∧ s ∈ supportedChains ∧ t ∈ supportedChains then
            misaligned d s t
          else []
        | _, _, _ => []) ++
      addressField v "srcChain" "srcAddress" ++ addressField v "dstChain" "dstAddress" ++
      requiredField v "srcAsset" (· ≠ "") ++ requiredField v "dstAsset" (· ≠ "") ++
      requiredField v "srcAmount" isDecimalInt ++
      requiredField v "srcSafetyDeposit" isDecimalInt ++ requiredField v "dstAmount" isDecimalInt
  | _ => ["root"]

/-! ### What the two accept -/

variable {v : Value} {d s t a name : String} {ok : String → Bool}

lemma requiredField_eq_nil :
    requiredField v name ok = [] ↔ (stringField v name).any ok = true := by
  simp [requiredField]

lemma shapeField_eq_nil {aborts : Bool} :
    shapeField v name aborts ok = [] ↔ (stringField v name).any ok = true := by
  unfold shapeField
  cases stringField v name <;> simp

lemma liveRouteDirections_eq :
    liveRouteDirections = ["eth_to_xlm", "xlm_to_eth", "eth_to_sol", "sol_to_eth"] := rfl

lemma supportedChains_eq : supportedChains = ["ethereum", "stellar", "solana"] := by decide

lemma checkRoutePolicy_ok {entry : String × String}
    (hd : policyDirectionChains.lookup d = some entry) (hne : entry.1 ≠ entry.2) :
    (∃ route, checkRoutePolicy d s t = .ok route) ↔ s = entry.1 ∧ t = entry.2 := by
  simp only [checkRoutePolicy, hd, placeholderChains, List.not_mem_nil, or_self, if_false]
  constructor
  · rintro ⟨route, hroute⟩
    split_ifs at hroute with hsame hsrc hdst
    exact ⟨not_not.1 hsrc, not_not.1 hdst⟩
  · rintro ⟨rfl, rfl⟩
    exact ⟨entry, by simp [hne]⟩

lemma misaligned_eq_nil (hd : d ∈ liveRouteDirections) :
    misaligned d s t = [] ↔ ∃ route, checkRoutePolicy d s t = .ok route := by
  simp only [liveRouteDirections, List.mem_cons, List.not_mem_nil, or_false] at hd
  rcases hd with rfl | rfl | rfl | rfl <;> rw [checkRoutePolicy_ok rfl (by decide)] <;>
    simp [misaligned, routeChainDirections, List.lookup]

lemma validateChainAddress_iff (hs : s ∈ supportedChains) :
    a ≠ "" ∧ validateChainAddress s a = true ↔ Coordinator.validateChainAddress s a = true := by
  simp only [supportedChains_eq, List.mem_cons, List.not_mem_nil, or_false] at hs
  have hsame : validateChainAddress s a = Coordinator.validateChainAddress s a := by
    rcases hs with rfl | rfl | rfl <;> rfl
  rw [hsame]
  refine and_iff_right_of_imp ?_
  rintro hvalid rfl
  rcases hs with rfl | rfl | rfl <;> cases hvalid

lemma superRefine_eq_nil {input : String → String} :
    superRefine input = [] ↔
      (∃ route,
        checkRoutePolicy (input "direction") (input "srcChain") (input "dstChain") = .ok route) ∧
      Coordinator.validateChainAddress (input "srcChain") (input "srcAddress") = true ∧
      Coordinator.validateChainAddress (input "dstChain") (input "dstAddress") = true := by
  unfold superRefine
  split <;> simp [*, addressIssue]

lemma announceSchema_eq_nil {members : List (Text × Value)} :
    announceSchema (.object members) = [] ↔
      announceShape (.object members) = [] ∧
      superRefine (fun name => (stringField (.object members) name).getD "") = [] := by
  rw [announceSchema, List.append_eq_nil_iff]
  refine and_congr_right fun hshape => ?_
  simp [hshape]

/-- A request is ok for the SDK just if the coordinator accepts it. -/
theorem validators_agree (v : Value) :
    validateAnnounceRequest v = [] ↔ announceSchema v = [] := by
  cases v with
  | object members =>
    rw [announceSchema_eq_nil, superRefine_eq_nil]
    simp only [validateAnnounceRequest, announceShape, addressField,
      List.append_eq_nil_iff, requiredField_eq_nil, shapeField_eq_nil, ← supportedChains_eq,
      ← liveRouteDirections_eq]
    generalize stringField (.object members) = field
    -- without one of these five fields both refuse
    rcases field "direction" with _ | d
    · simp
    rcases field "srcChain" with _ | s
    · simp
    rcases field "dstChain" with _ | t
    · simp
    rcases field "srcAddress" with _ | src
    · simp
    rcases field "dstAddress" with _ | dst
    · simp
    by_cases hknown : d ∈ liveRouteDirections ∧ s ∈ supportedChains ∧ t ∈ supportedChains
    · have hroute := misaligned_eq_nil (s := s) (t := t) hknown.1
      have hsrc := validateChainAddress_iff (a := src) hknown.2.1
      have hdst := validateChainAddress_iff (a := dst) hknown.2.2
      simp only [Option.any_some, Option.all_some]
      grind
    · simp only [Option.any_some, Option.all_some]
      grind
  | array items =>
    simp [validateAnnounceRequest, announceSchema, requiredField, stringField, Value.member]
  | _ => simp [validateAnnounceRequest, announceSchema]

end Sdk

end WaffleFinance
