import WaffleFinance.Coordinator.Pagination
import WaffleFinance.Coordinator.Spelling

/-!
# The client for the history of an address

`HistoryClient.getAll` of the SDK asks the route `GET /orders/history` of the coordinator for one
page after the other, until a page comes without a cursor.

The two programs do not agree on the answer.  The route sends the orders in a field `orders`; the
client reads `transactions`.  And a request without a cursor, which is the first one of a walk, is
answered by the old way of paging, without a cursor for the next page (`offset_page_is_last`).
-/

namespace WaffleFinance.Sdk

open Coordinator

/-! ### The route -/

/-- The part of an answer that is about pages.  `nextCursor` may be missing, or there and `null`. -/
structure PaginationBlock where
  limit : ℕ
  offset : Option ℕ
  count : ℕ
  nextCursor : Option (Option Text)

inductive BodyValue where
  | orders (orders : List StoredOrder)
  | pagination (block : PaginationBlock)

/-- The object that is sent, field by field. -/
abbrev Body := List (Text × BodyValue)

def Body.field (body : Body) (name : Text) : Option BodyValue := body.lookup name

inductive Response where
  | ok (body : Body)
  | error (status : ℕ) (error message : Text)

def validationError (message : Text) : Response :=
  .error 400 "validation_error".toList message

def invalidCursorError : Response :=
  .error 400 "invalid_cursor".toList "The provided cursor is invalid or expired".toList

/-- What the service for orders offers to the route: pages by offset, and pages by cursor or the
message of an error. -/
structure HistoryService where
  history : (address : Text) → (limit offset : ℕ) → List StoredOrder
  historyWithCursor : (address : Text) → (limit : ℕ) → (cursor : Text) →
    Except Text (List StoredOrder × Option Text)

/-- The service on a table, with nothing in its cache. -/
def historyService (syntaxError : Text → Text) (t : OrderTable) : HistoryService where
  history address limit offset :=
    ((OrdersRepository.byAddress t address).drop offset).take (OrdersRepository.finalLimit limit)
  historyWithCursor address limit cursor :=
    OrdersRepository.findByAddressWithCursor syntaxError t address
      (OrdersRepository.finalLimit limit) (some cursor)

def isHexAddress : Text → Bool
  | '0' :: 'x' :: digits => digits.length = 40 && digits.all fun c => (hexValue c).isSome
  | _ => false

def zeroAddress : Text := '0' :: 'x' :: List.replicate 40 '0'

/-- `G` and 55 characters of base 32. -/
def isStellarAddress : Text → Bool
  | 'G' :: rest => rest.length = 55 && rest.all fun c =>
      ('A' ≤ c && c ≤ 'Z') || ('2' ≤ c && c ≤ '7')
  | _ => false

/-- Digits and letters without `0`, `O`, `I` and `l`. -/
def isSolanaAddress (addr : Text) : Bool :=
  32 ≤ addr.length && addr.length ≤ 44 && addr.all fun c => c.isAlphanum && c ∉ "0OIl".toList

def isSupportedAddress (addr : Text) : Bool :=
  (isHexAddress addr && toLowerCase addr ≠ zeroAddress) || isStellarAddress addr ||
    isSolanaAddress addr

def historyAddressSchema (address : Text) : Option Text :=
  if isSupportedAddress (trim address) then some (trim address) else none

/-- From here on a number of JavaScript is infinite. -/
def infiniteFrom : ℕ := 2 ^ 1024 - 2 ^ 970

/-- The digits of a whole number, and whether there is a sign in front. -/
def signedDigits (t : Text) : Option (Bool × Text) :=
  let digits := if t.head? = some '-' then t.tail else t
  if digits ≠ [] && digits.all Char.isDigit then some (t.head? = some '-', digits) else none

inductive QueryInt where
  | absent
  | invalid
  | number (n : ℤ)

/-- A number among the parameters of a request. -/
def parseStrictQueryInt : Option Text → QueryInt
  | none => .absent
  | some raw =>
    if trim raw = [] then .absent
    else
      match signedDigits (trim raw) with
      | none => .invalid
      | some (negative, digits) =>
        let value := Nat.ofDigitChars 10 digits 0
        if infiniteFrom ≤ value then .invalid
        else .number (if negative then - value else value)

/-- The number of orders on a page. -/
def pageLimit (n : ℤ) : ℕ := (min (max n 1) 200).toNat

section Route

-- what `Number` makes of a text, unless that is not finite
variable (number : Text → Option ℚ) (service : HistoryService)

/-- The answer with a page by cursor. -/
def cursorPage (address : Text) (limit : ℕ) (cursor : Text) : Response :=
  if (number cursor).any fun n => n < 0 then invalidCursorError
  else
    match service.historyWithCursor address limit cursor with
    | .ok (orders, nextCursor) =>
      .ok [("orders".toList, .orders orders),
        ("pagination".toList, .pagination ⟨limit, none, orders.length, some nextCursor⟩)]
    | .error message =>
      if includes message "Invalid cursor".toList then invalidCursorError
      else .error 500 "internal_error".toList message

/-- The answer with a page by offset, which a request without a cursor gets. -/
def offsetPage (address : Text) (limit : ℕ) : Response :=
  .ok [("orders".toList, .orders (service.history address limit 0)),
    ("pagination".toList,
      .pagination ⟨limit, some 0, (service.history address limit 0).length, none⟩)]

/-- `GET /orders/history`, for requests without an offset. -/
def historyRoute (address : Text) (limit cursor : Option Text) : Response :=
  match historyAddressSchema address with
  | none => validationError "Request validation failed".toList
  | some address =>
    match parseStrictQueryInt limit with
    | .invalid => validationError "limit must be a valid integer".toList
    | .absent => page address 50
    | .number n => page address (pageLimit n)
where
  page (address : Text) (limit : ℕ) : Response :=
    match cursor with
    | none => offsetPage service address limit
    | some cursor =>
      if trim cursor = [] then offsetPage service address limit
      else cursorPage number service address limit cursor

end Route

/-! ### The client -/

inductive ClientError where
  | validation (message : Text)
  | api (status : ℕ) (error message : Text)
  | typeError (message : Text)
  deriving DecidableEq

structure HistoryPage where
  records : List StoredOrder
  nextCursor : Option Text

section Client

variable (number : Text → Option ℚ) (service : HistoryService)

/-- One request.  `limit` is the text of a number. -/
def getHistory (address : Text) (limit cursor : Option Text) : Except ClientError Body :=
  if address = [] then .error (.validation "address is required".toList)
  else
    match historyRoute number service address limit cursor with
    | .ok body => .ok body
    | .error status error message => .error (.api status error message)

/-- What the engine says about `raw.transactions.map(…)` where the field is missing. -/
def missingTransactions : ClientError :=
  .typeError "Cannot read properties of undefined (reading 'map')".toList

def readTransactions (raw : Body) : Except ClientError (List StoredOrder) :=
  match raw.field "transactions".toList with
  | some (.orders orders) => .ok orders
  | some (.pagination _) => .error (.typeError "raw.transactions.map is not a function".toList)
  | none => .error missingTransactions

/-- The cursor in an answer, if its pagination has that field. -/
def readNextCursor (raw : Body) : Except ClientError (Option Text) :=
  match raw.field "pagination".toList with
  | some (.pagination block) => .ok (block.nextCursor.getD none)
  | _ => .error (.typeError "Cannot use 'in' operator to search for 'nextCursor'".toList)

def getPage (address : Text) (limit cursor : Option Text) : Except ClientError HistoryPage := do
  let raw ← getHistory number service address limit cursor
  let records ← readTransactions raw
  let nextCursor ← readNextCursor raw
  pure ⟨records, nextCursor⟩

/-- The loop, for as many pages as there is fuel; `none` if it is not done by then. -/
def walk (address : Text) (limit : Option Text) :
    ℕ → (cursor : Option Text) → List StoredOrder → Option (Except ClientError (List StoredOrder))
  | 0, _, _ => none
  | fuel + 1, cursor, records =>
    match getPage number service address limit cursor with
    | .error e => some (.error e)
    | .ok page =>
      match truthy page.nextCursor with
      | none => some (.ok (records ++ page.records))
      | some cursor => walk address limit fuel (some cursor) (records ++ page.records)

def getAll (fuel : ℕ) (address : Text) (limit : Option Text) :
    Option (Except ClientError (List StoredOrder)) :=
  walk number service address limit fuel none []

end Client

/-! ### What comes of it -/

section Walk

variable (number : Text → Option ℚ) (service : HistoryService) (address : Text)
  (limit cursor : Option Text)

/-- Every page that the route sends has its orders under `orders`, and nothing under
`transactions`. -/
lemma transactions_of_historyRoute {body : Body}
    (h : historyRoute number service address limit cursor = .ok body) :
    body.field "transactions".toList = none := by
  have hoffset : ∀ {a l}, offsetPage service a l = .ok body →
      body.field "transactions".toList = none := by
    intro a l hpage
    obtain rfl := Response.ok.inj hpage
    rfl
  have hcursor : ∀ {a l c}, cursorPage number service a l c = .ok body →
      body.field "transactions".toList = none := by
    intro a l c hpage
    unfold cursorPage at hpage
    split at hpage
    · cases hpage
    split at hpage
    · obtain rfl := Response.ok.inj hpage
      rfl
    · split at hpage <;> cases hpage
  have hpage : ∀ {a l}, historyRoute.page number service cursor a l = .ok body →
      body.field "transactions".toList = none := by
    intro a l hpage
    unfold historyRoute.page at hpage
    split at hpage
    · exact hoffset hpage
    · split at hpage
      · exact hoffset hpage
      · exact hcursor hpage
  unfold historyRoute at h
  split at h
  · cases h
  split at h
  · cases h
  · exact hpage h
  · exact hpage h

/-- A request without a cursor is answered without one. -/
theorem offset_page_is_last (a : Text) (l : ℕ) :
    ∃ body, offsetPage service a l = .ok body ∧ readNextCursor body = .ok none :=
  ⟨_, rfl, rfl⟩

lemma getPage_error : ∃ e, getPage number service address limit cursor = .error e := by
  unfold getPage
  cases hraw : getHistory number service address limit cursor with
  | error e => exact ⟨e, rfl⟩
  | ok raw =>
    have hfield : raw.field "transactions".toList = none := by
      unfold getHistory at hraw
      split at hraw
      · cases hraw
      split at hraw
      · rename_i body hbody
        cases hraw
        exact transactions_of_historyRoute number service address limit cursor hbody
      · cases hraw
    have hread : readTransactions raw = .error missingTransactions := by
      unfold readTransactions
      rw [hfield]
    refine ⟨missingTransactions, ?_⟩
    show (readTransactions raw >>= fun records => _) = _
    rw [hread]
    rfl

end Walk

/-- Whatever the coordinator has stored, whatever the address and the limit: no walk through the
history returns the orders of the address.  It ends with an error at the first page. -/
theorem history_walk_never_completes (number : Text → Option ℚ) (service : HistoryService)
    (address : Text) (limit : Option Text) :
    (∃ e, ∀ fuel, getAll number service (fuel + 1) address limit = some (.error e)) ∧
      ∀ fuel records, getAll number service fuel address limit ≠ some (.ok records) := by
  obtain ⟨e, he⟩ := getPage_error number service address limit none
  have hwalk : ∀ fuel, getAll number service (fuel + 1) address limit = some (.error e) := by
    intro fuel
    unfold getAll walk
    rw [he]
  refine ⟨⟨e, hwalk⟩, fun fuel records => ?_⟩
  cases fuel with
  | zero => exact nofun
  | succ fuel =>
    rw [hwalk fuel]
    exact nofun

namespace Sample

/-- A table without orders. -/
def emptyTable : OrderTable := ⟨[], List.nodup_nil⟩

def address : Text := '0' :: 'x' :: List.replicate 40 '1'

end Sample

/-- Already the history of an address without orders cannot be read. -/
theorem empty_history_throws :
    getAll (fun _ => none) (historyService (fun _ => []) Sample.emptyTable) 5 Sample.address none =
      some (.error missingTransactions) := by
  decide +kernel

end WaffleFinance.Sdk
