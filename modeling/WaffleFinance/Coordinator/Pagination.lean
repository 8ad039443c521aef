import WaffleFinance.Lib.Base64
import WaffleFinance.Lib.Json
import WaffleFinance.Coordinator.Orders

/-!
# The history of an address, page by page

`findByAddressWithCursor` lists the orders of an address, the newest first.  Orders that were made
in the same second are told apart by their number.  A page ends with a cursor, the place of its
last order, and the next page has what comes after that place.
-/

namespace WaffleFinance.Coordinator

open Lib

/-- A row of `orders` with the columns that the database fills in. -/
structure StoredOrder where
  /-- The primary key. -/
  id : ℕ
  createdAt : ℕ
  publicId : Text
  row : OrderRow
  deriving DecidableEq

namespace StoredOrder

/-- `WHERE src_address = :addr OR dst_address = :addr`. -/
def involves (o : StoredOrder) (addr : Text) : Bool :=
  o.row.srcAddress = addr || o.row.dstAddress = addr

/-- What the list is sorted by. -/
def place (o : StoredOrder) : ℕ ×ₗ ℕ := toLex (o.createdAt, o.id)

/-- `ORDER BY created_at DESC, id DESC`. -/
def orderDesc (rows : List StoredOrder) : List StoredOrder :=
  rows.insertionSort fun a b => b.place ≤ a.place

end StoredOrder

/-- The table, with no two orders of the same number. -/
structure OrderTable where
  rows : List StoredOrder
  nodup_id : (rows.map StoredOrder.id).Nodup

/-! ### Pages and cursors -/

/-- The page that is made of rows of which there may be one more than `limit`. -/
def pageOf {α γ : Type*} (position : α → γ) (limit : ℕ) (rows : List α) : List α × Option γ :=
  if limit < rows.length then (rows.take limit, (rows.take limit).getLast?.map position)
  else (rows, none)

/-- What is read from a cursor.  A client may have made it. -/
structure CursorInfo where
  createdAt : ℚ
  id : ℚ

/-- The cursor of an order. -/
def StoredOrder.cursor (o : StoredOrder) : CursorInfo := ⟨o.createdAt, o.id⟩

/-- `created_at < :createdAt OR (created_at = :createdAt AND id < :id)`. -/
def StoredOrder.behind (o : StoredOrder) (c : CursorInfo) : Bool :=
  o.createdAt < c.createdAt || (o.createdAt = c.createdAt && o.id < c.id)

/-- The bytes of a text in which every character is one byte. -/
def bytesOfText (t : Text) : List UInt8 := t.map fun c => UInt8.ofNat c.toNat

/-- The characters beyond the first 128 are not told apart: the cursors have none of them. -/
def textOfBytes (bytes : List UInt8) : Text :=
  bytes.map fun b => if b < 128 then Char.ofNat b.toNat else '�'

/-- From the characters for addresses to the usual ones. -/
def usualDigit (c : Char) : Char := if c = '-' then '+' else if c = '_' then '/' else c

/-- The other way. -/
def addressDigit (c : Char) : Char := if c = '+' then '-' else if c = '/' then '_' else c

/-- `Buffer.from(…, 'base64')`, which takes both alphabets. -/
def bufferFromBase64 (t : Text) : List UInt8 := Base64.decode (t.map addressDigit)

namespace OrdersRepository

/-- The position as JSON, in base64 for addresses and without padding. -/
def encodeCursor (createdAt id : ℕ) : Text :=
  Base64.encode (bytesOfText
    (Json.stringify [("createdAt".toList, createdAt), ("id".toList, id)]))

def invalidCursor (reason : Text) : Text := "Invalid cursor: ".toList ++ reason

/-- The fields that a position is made of. -/
def cursorOf (parsed : Json.Value) : Except Text CursorInfo :=
  match parsed with
  | .null =>
    .error (invalidCursor "Cannot read properties of null (reading 'createdAt')".toList)
  | parsed =>
    match parsed.member "createdAt".toList, parsed.member "id".toList with
    | some (.number createdAt), some (.number id) => .ok ⟨createdAt, id⟩
    | _, _ =>
      .error (invalidCursor "Invalid cursor format: missing or invalid createdAt/id".toList)

section

-- what the engine says about a text that is not JSON
variable (syntaxError : Text → Text)

def decodeCursor (cursor : Text) : Except Text CursorInfo :=
  let padded := cursor ++ "===".toList.drop ((cursor.length + 3) % 4)
  let base64 := padded.map usualDigit
  let json := textOfBytes (bufferFromBase64 base64)
  match Json.parse json with
  | none => .error (invalidCursor (syntaxError json))
  | some parsed => cursorOf parsed

/-- The orders of an address, the newest first. -/
def byAddress (t : OrderTable) (addr : Text) : List StoredOrder :=
  StoredOrder.orderDesc (t.rows.filter fun o => o.involves addr)

/-- Those of them behind a cursor. -/
def byAddressCursor (t : OrderTable) (addr : Text) (c : CursorInfo) : List StoredOrder :=
  StoredOrder.orderDesc (t.rows.filter fun o => o.involves addr && o.behind c)

/-- One row more than the page shows is read, to see whether there is a next page. -/
def findByAddressWithCursor (t : OrderTable) (addr : Text) (limit : ℕ) (cursor : Option Text) :
    Except Text (List StoredOrder × Option Text) :=
  let page (rows : List StoredOrder) :=
    pageOf (fun o => encodeCursor o.createdAt o.id) limit (rows.take (limit + 1))
  match cursor with
  | none => .ok (page (byAddress t addr))
  | some [] => .error (invalidCursor "empty string is not a valid cursor".toList)
  | some cursor => (decodeCursor syntaxError cursor).map fun c => page (byAddressCursor t addr c)

end

/-- The limit that the service passes on. -/
def finalLimit (limit : ℕ) : ℕ := min (max limit 1) 200

end OrdersRepository

end WaffleFinance.Coordinator
