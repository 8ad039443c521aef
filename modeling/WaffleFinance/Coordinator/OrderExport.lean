import WaffleFinance.Coordinator.Orders

/-!
# The export of orders

`exportOrders` asks the database for the first orders of a status and filters what it gets.  An
order that meets the filters is left out if enough others of its status come first, whether or not
they meet the filters.  The limit is cut at 1000, and the count is that of the orders returned.
-/

namespace WaffleFinance.Coordinator

/-- An order, with the columns that are looked at here. -/
structure ExportOrder where
  publicId : Text
  status : OrderStatus
  createdAt : ℤ
  updatedAt : ℤ
  archivedAt : Option ℤ
  deriving DecidableEq

/-- The filters that may go with a status. -/
structure RangeFilters where
  createdAfter : Option ℤ := none
  createdBefore : Option ℤ := none
  updatedAfter : Option ℤ := none
  updatedBefore : Option ℤ := none
  includeArchived : Bool := false
  limit : Option ℕ := none

structure OrderExportFilters extends RangeFilters where
  orderId : Option Text
  orderIds : List Text
  status : Option OrderStatus
  srcChain : Option Chain
  dstChain : Option Chain

structure OrderExportResult where
  orders : List ExportOrder
  totalCount : ℕ
  deriving DecidableEq

/-- The date range and the archive flag. -/
def RangeFilters.accepts (f : RangeFilters) (o : ExportOrder) : Bool :=
  f.createdAfter.all (· ≤ o.createdAt) && f.createdBefore.all (o.createdAt ≤ ·) &&
    f.updatedAfter.all (· ≤ o.updatedAt) && f.updatedBefore.all (o.updatedAt ≤ ·) &&
    (f.includeArchived || o.archivedAt = none)

/-- `WHERE status = :status ORDER BY created_at DESC`, orders of one time as they are stored. -/
def ordersOfStatus (table : List ExportOrder) (status : OrderStatus) : List ExportOrder :=
  (table.filter (·.status = status)).insertionSort fun a b => b.createdAt ≤ a.createdAt

def findByStatus (table : List ExportOrder) (status : OrderStatus) (limit : ℕ) :
    List ExportOrder :=
  (ordersOfStatus table status).take limit

def findOrdersByFilters (table : List ExportOrder) (f : OrderExportFilters) (limit : ℕ) :
    Except Text (List ExportOrder) :=
  let byPublicId := fun id => table.find? (·.publicId = id)
  match f.orderId.filter (· ≠ []) with
  | some id => .ok (byPublicId id).toList
  | none =>
    if f.orderIds ≠ [] then .ok (f.orderIds.filterMap byPublicId)
    else if f.srcChain.isSome || f.dstChain.isSome then
      .error ("Filtering by srcChain/dstChain is not supported. Supported filters: orderId, " ++
        "orderIds, or status (optionally combined with a date range).").toList
    else
      match f.status with
      | some status => .ok ((findByStatus table status limit).filter f.accepts)
      | none => .error ("Unsupported filter combination: supply orderId, orderIds, or status " ++
          "(optionally combined with a date range).").toList

def exportOrders (table : List ExportOrder) (f : OrderExportFilters) :
    Except Text OrderExportResult :=
  (findOrdersByFilters table f (min (f.limit.getD 100) 1000)).map
    fun orders => ⟨orders, orders.length⟩

/-- A request for the orders of a status. -/
def RangeFilters.ofStatus (f : RangeFilters) (status : OrderStatus) : OrderExportFilters :=
  { f with orderId := none, orderIds := [], status := some status, srcChain := none,
           dstChain := none }

/-- The orders that meet all filters. -/
def matchingOrders (table : List ExportOrder) (status : OrderStatus) (f : RangeFilters) :
    List ExportOrder :=
  table.filter fun o => o.status = status && f.accepts o

/-- As many matching orders as there are, up to the limit, and their number. -/
def ExportsAll (table : List ExportOrder) (status : OrderStatus) (f : RangeFilters) : Prop :=
  ∃ result, exportOrders table (f.ofStatus status) = .ok result ∧
    result.orders.Subperm (matchingOrders table status f) ∧
    result.orders.length = min (f.limit.getD 100) (matchingOrders table status f).length ∧
    result.totalCount = (matchingOrders table status f).length

section Export

variable (table : List ExportOrder) (status : OrderStatus) (f : RangeFilters)

lemma matchingOrders_perm :
    ((ordersOfStatus table status).filter f.accepts).Perm (matchingOrders table status f) := by
  have hsort : (ordersOfStatus table status).Perm (table.filter (·.status = status)) :=
    List.perm_insertionSort _ _
  refine (hsort.filter _).trans (List.Perm.of_eq ?_)
  rw [List.filter_filter]
  exact List.filter_congr fun o _ => Bool.and_comm ..

/-- Every matching order is exported and counted exactly if none comes after the first orders of the
status, up to the limit and at most 1000. -/
theorem export_complete_iff : ExportsAll table status f ↔
    ∀ o ∈ (ordersOfStatus table status).drop (min (f.limit.getD 100) 1000),
      f.accepts o = false := by
  set n := min (f.limit.getD 100) 1000
  set rows := ordersOfStatus table status
  have hperm := matchingOrders_perm table status f
  -- what is returned, and what is cut off before the filters are looked at
  have hsplit : ((rows.take n).filter f.accepts).length + ((rows.drop n).filter f.accepts).length =
      (matchingOrders table status f).length := by
    rw [← hperm.length_eq, ← List.length_append, ← List.filter_append, List.take_append_drop]
  have hexport : exportOrders table (f.ofStatus status) =
      .ok ⟨(rows.take n).filter f.accepts, ((rows.take n).filter f.accepts).length⟩ := rfl
  have hcut : (∀ o ∈ rows.drop n, f.accepts o = false) ↔
      ((rows.drop n).filter f.accepts).length = 0 := by
    simp
  rw [hcut, ExportsAll]
  constructor
  · rintro ⟨result, hresult, -, -, hcount⟩
    rw [hexport] at hresult
    cases hresult
    dsimp only at hcount
    omega
  · intro hnone
    have hlength : ((rows.take n).filter f.accepts).length ≤ n :=
      (List.length_filter_le _ _).trans (List.length_take_le _ _)
    have hlimit : n ≤ f.limit.getD 100 := min_le_left _ _
    have hsub : ((rows.take n).filter f.accepts).Sublist (rows.filter f.accepts) :=
      (List.take_sublist n rows).filter _
    refine ⟨_, hexport, hsub.subperm.trans hperm.subperm, ?_, ?_⟩ <;> dsimp only <;> omega

end Export

/-- The newer of two completed orders is not in the range, and the limit is one: nothing is
exported, although the older one meets the filters. -/
theorem export_misses_match :
    let older : ExportOrder := ⟨"wf_1".toList, .completed, 10, 10, none⟩
    let newer : ExportOrder := ⟨"wf_2".toList, .completed, 20, 20, none⟩
    let f : RangeFilters := { createdBefore := some 15, limit := some 1 }
    exportOrders [older, newer] (f.ofStatus .completed) = .ok ⟨[], 0⟩ ∧
      matchingOrders [older, newer] .completed f = [older] := by
  decide

end WaffleFinance.Coordinator
