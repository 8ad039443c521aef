import WaffleFinance.Lib.Calls
import WaffleFinance.Coordinator.RepositorySpec

/-!
# The service for orders

`OrderService` stands between the repository and everybody who changes orders: the HTTP routes, the
listeners and the reconciler.  Its methods first read the order, decide on the row that they have
read, and then call the repository to write.  Between the read and the write others may run.

A call of the repository is one atomic operation (`Call`), and the only thing that a method waits
for.  The label of the write of a method carries the row that was read, so that what may have
happened in between can be talked about.
-/

namespace WaffleFinance.Coordinator

open Lib

/-! ### Errors -/

/-- The classes of errors that the services throw. -/
inductive ErrorKind where
  | validation
  | unknownOrder
  | invalidPreimage
  | revealConflict
  | secretStorage
  | other
  | db (code : Option DbErrorCode)
  deriving DecidableEq

structure ServiceError where
  kind : ErrorKind
  message : Text
  deriving DecidableEq

def DbError.service (e : DbError) : ServiceError := ⟨.db e.code, e.message⟩

/-- `OrderValidationError`. -/
def orderValidationError (message : Text) : ServiceError := ⟨.validation, message⟩

/-- A column as JavaScript writes it into a text. -/
def columnText (column : Option Text) : Text := column.getD "null".toList

/-! ### Decisions on the row -/

/-- What a method makes of the row that it has read. -/
inductive Verdict where
  | ignore
  | refuse (message : Text)
  | proceed
  deriving DecidableEq

/-- The last two checks before something is recorded. -/
def recordVerdict (what publicId : Text) (target status : OrderStatus) : Verdict :=
  if isTerminal status then
    .refuse ("cannot record ".toList ++ what ++ " for terminal order ".toList ++ publicId ++
      " (status=".toList ++ status.text ++ ")".toList)
  else if !canTransition status target && status ≠ target then
    .refuse ("cannot record ".toList ++ what ++ " from status ".toList ++ status.text)
  else .proceed

/-- The checks of the two methods that record a lock. -/
def lockVerdict (what publicId orderId txHash : Text) (target : OrderStatus)
    (storedId storedTx : Option Text) (status : OrderStatus) : Verdict :=
  if storedId = some orderId ∧ storedTx = some txHash then .ignore
  else if storedId ≠ none ∧ (storedId ≠ some orderId ∨ storedTx ≠ some txHash) then
    .refuse ("conflicting ".toList ++ what ++ " for ".toList ++ publicId ++
      ": existing=".toList ++ columnText storedId ++ "/".toList ++ columnText storedTx ++
      " incoming=".toList ++ orderId ++ "/".toList ++ txHash)
  else recordVerdict what publicId target status

def srcLockVerdict (input : SrcLockInput) (order : OrderRow) : Verdict :=
  lockVerdict "src lock".toList input.publicId input.orderId input.txHash .srcLocked
    order.srcOrderId order.srcLockTx order.status

def dstLockVerdict (input : DstLockInput) (order : OrderRow) : Verdict :=
  lockVerdict "dst lock".toList input.publicId input.orderId input.txHash .dstLocked
    order.dstOrderId order.dstLockTx order.status

def secretVerdict (publicId preimage : Text) (order : OrderRow) : Verdict :=
  if order.preimage = some preimage then .ignore
  else if order.preimage ≠ none ∧ order.preimage ≠ some preimage then
    .refuse ("conflicting preimage for ".toList ++ publicId ++ ": existing=".toList ++
      columnText order.preimage ++ " incoming=".toList ++ preimage)
  else recordVerdict "secret".toList publicId .secretRevealed order.status

def statusVerdict (publicId : Text) (status : OrderStatus) (order : OrderRow) : Verdict :=
  if order.status = status then .ignore
  else if isTerminal order.status then
    .refuse ("cannot transition terminal order ".toList ++ publicId ++ " from ".toList ++
      order.status.text ++ " to ".toList ++ status.text)
  else if !canTransition order.status status then
    .refuse ("cannot transition from ".toList ++ order.status.text ++ " to ".toList ++ status.text)
  else .proceed

/-! ### Calls of the repository -/

/-- A call of one of the four methods that read, decide and write. -/
inductive Job where
  | recordSrcLock (input : SrcLockInput)
  | recordDstLock (input : DstLockInput)
  | recordSecret (publicId preimage txHash : Text) (encVersion : Option ℕ)
  | markStatus (publicId : Text) (status : OrderStatus)
  deriving DecidableEq

namespace Job

def publicId : Job → Text
  | recordSrcLock input => input.publicId
  | recordDstLock input => input.publicId
  | recordSecret p _ _ _ => p
  | markStatus p _ => p

def verdict : Job → OrderRow → Verdict
  | recordSrcLock input => srcLockVerdict input
  | recordDstLock input => dstLockVerdict input
  | recordSecret p preimage _ _ => secretVerdict p preimage
  | markStatus p status => statusVerdict p status

/-- The call of the repository that writes.  The actor of a secret or a status is not passed on,
and no status is expected. -/
def write : Job → Mutation
  | recordSrcLock input => .recordSrcLock input
  | recordDstLock input => .recordDstLock input
  | recordSecret p preimage txHash encVersion =>
    .recordSecretRevealed ⟨p, preimage, txHash, encVersion, none⟩
  | markStatus p status => .setStatus p status none none

/-- The cursor of the order that is moved after a lock. -/
def cursor : Job → OrderRow → Option (Chain × ℕ)
  | recordSrcLock input, order =>
    if input.blockNumber > 0 then some (order.srcChain, input.blockNumber) else none
  | recordDstLock input, order =>
    if input.blockNumber > 0 then some (order.dstChain, input.blockNumber) else none
  | recordSecret .., _ => none
  | markStatus .., _ => none

lemma publicId_write (job : Job) : job.write.publicId = job.publicId := by
  cases job <;> rfl

end Job

/-- What the services wait for. -/
inductive Call where
  /-- The read at the head of a job, and its write with the row that was read. -/
  | check (job : Job)
  | commit (job : Job) (seen : OrderRow)
  | announce (input : AnnounceOrderInput)
  | rollbackSrcLock (publicId : Text)
  | rollbackDstLock (publicId : Text)
  | cancelOrder (publicId reason : Text) (actor : Option MutationActor)
  | abandonOrder (publicId reason : Text) (actor : Option MutationActor)
  | get (publicId : Text)
  | findByHashlock (hashlock : Text)
  | findBySrcOrderId (chain : Chain) (orderId : Text)
  | findExpiredCandidates (now : ℕ)
  | updateOrderCursor (publicId : Text) (chain : Chain) (position : ℕ)
  | advanceOrderLedgerCursor (publicId : Text) (chain : Chain) (position : ℕ)
  | claimEvent (key : EventKey)
  | getChainCursor (chain : Chain)
  | setChainCursor (chain : Chain) (position : ℕ)
  | getMinActiveOrderCursor (chain : Chain)
  /-- A request to a node of a chain. -/
  | rpc
  /-- The caller has its answer. -/
  | reply (outcome : Except ServiceError Unit)

namespace Call

abbrev Result : Call → Type
  | check _ => Option OrderRow
  | announce _ => Text × OrderRow
  | get _ => Option OrderRow
  | findByHashlock _ => Option (Text × OrderRow)
  | findBySrcOrderId _ _ => Option (Text × OrderRow)
  | findExpiredCandidates _ => List (Text × OrderRow)
  | claimEvent _ => Bool
  | getChainCursor _ => ℕ
  | getMinActiveOrderCursor _ => Option ℕ
  | _ => Unit

open OrdersRepository in
def program : (q : Call) → DbProgram q.Result
  | check job => OrdersRepository.findByPublicId job.publicId
  | commit job _ => job.write.program
  | announce input => OrdersRepository.announce input
  | rollbackSrcLock p => OrdersRepository.rollbackSrcLock p none
  | rollbackDstLock p => OrdersRepository.rollbackDstLock p none
  | cancelOrder p reason actor => OrdersRepository.cancelOrder p reason actor
  | abandonOrder p reason actor => OrdersRepository.abandonOrder p reason actor
  | get p => OrdersRepository.findByPublicId p
  | findByHashlock hashlock => OrdersRepository.findByHashlock hashlock
  | findBySrcOrderId chain orderId => OrdersRepository.findBySrcOrderId chain orderId
  | findExpiredCandidates now => OrdersRepository.findExpiredCandidates now
  | updateOrderCursor p chain position => OrdersRepository.updateOrderCursor p chain position
  | advanceOrderLedgerCursor p chain position =>
    OrdersRepository.advanceOrderLedgerCursor p chain position
  | claimEvent key => OrdersRepository.claimEvent key
  | getChainCursor chain => OrdersRepository.getChainCursor chain
  | setChainCursor chain position => OrdersRepository.setChainCursor chain position
  | getMinActiveOrderCursor chain => OrdersRepository.getMinActiveOrderCursor chain
  | rpc => Sql.statement fun d => .ok ((), d)
  | reply _ => pure ()

/-- The change of one order that a call makes, if it is of that kind. -/
def mutation : Call → Option Mutation
  | commit job _ => some job.write
  | rollbackSrcLock p => some (.rollbackSrcLock p none)
  | rollbackDstLock p => some (.rollbackDstLock p none)
  | cancelOrder p reason actor => some (.cancelOrder p reason actor)
  | abandonOrder p reason actor => some (.abandonOrder p reason actor)
  | _ => none

end Call

/-- The repository as the services see it. -/
def repository : Store ServiceError Db Call Fate Call.Result where
  run q fate d := ((q.program.exec fate d).1.mapError DbError.service, (q.program.exec fate d).2)

abbrev Serve (α : Type) := Service ServiceError Db Call Fate α

abbrev call (q : Call) : Serve q.Result := repository.call q

/-! ### Methods -/

namespace OrderService

def announce (input : AnnounceOrderInput) : Serve (Text × OrderRow) := do
  match ← call (.findByHashlock input.hashlock) with
  | some (publicId, _) =>
    throw (orderValidationError ("An order with hashlock ".toList ++ input.hashlock ++
      " already exists (publicId=".toList ++ publicId ++ ")".toList))
  | none => call (.announce input)

/-- Read, decide, write. -/
def run (job : Job) : Serve Unit := do
  match ← call (.check job) with
  | none => throw (orderValidationError ("unknown order ".toList ++ job.publicId))
  | some order =>
    match job.verdict order with
    | .ignore => pure ()
    | .refuse message => throw (orderValidationError message)
    | .proceed =>
      call (.commit job order)
      match job.cursor order with
      | none => pure ()
      | some (chain, position) => call (.updateOrderCursor job.publicId chain position)

def recordSrcLock (input : SrcLockInput) : Serve Unit := run (.recordSrcLock input)

def recordDstLock (input : DstLockInput) : Serve Unit := run (.recordDstLock input)

def recordSecret (publicId preimage txHash : Text) (encVersion : Option ℕ) : Serve Unit :=
  run (.recordSecret publicId preimage txHash encVersion)

def markStatus (publicId : Text) (status : OrderStatus) : Serve Unit :=
  run (.markStatus publicId status)

def rollbackSrcLock (publicId : Text) : Serve Unit := call (.rollbackSrcLock publicId)

def rollbackDstLock (publicId : Text) : Serve Unit := call (.rollbackDstLock publicId)

/-- Mark the candidates one after the other.  What cannot be marked is skipped. -/
def expireEach : List (Text × OrderRow) → ℕ → Serve ℕ
  | [], count => pure count
  | (publicId, order) :: rest, count =>
    if order.status = .expired then expireEach rest count
    else if isTerminal order.status then expireEach rest count
    else do
      let marked ← tryCatch (do
        markStatus publicId .expired
        pure true) fun _ => pure false
      expireEach rest (if marked then count + 1 else count)

def expireStaleOrders (now : ℕ) : Serve ℕ := do
  let candidates ← call (.findExpiredCandidates now)
  expireEach candidates 0

end OrderService

/-! ### Requests -/

/-- The calls of the service.  `cancelOrder` and `abandonOrder` are made on the repository. -/
inductive OrderRequest where
  | announce (input : AnnounceOrderInput)
  | run (job : Job)
  | rollbackSrcLock (publicId : Text)
  | rollbackDstLock (publicId : Text)
  | expireStaleOrders (now : ℕ)
  | cancelOrder (publicId reason : Text) (actor : Option MutationActor)
  | abandonOrder (publicId reason : Text) (actor : Option MutationActor)

def OrderRequest.code : OrderRequest → Serve Unit
  | announce input => do
    let _ ← OrderService.announce input
    pure ()
  | run job => OrderService.run job
  | rollbackSrcLock p => OrderService.rollbackSrcLock p
  | rollbackDstLock p => OrderService.rollbackDstLock p
  | expireStaleOrders now => do
    let _ ← OrderService.expireStaleOrders now
    pure ()
  | cancelOrder p reason actor => call (.cancelOrder p reason actor)
  | abandonOrder p reason actor => call (.abandonOrder p reason actor)

/-- Answer the caller when the request is done. -/
def answered (x : Serve Unit) : Serve Unit := do
  let outcome ← tryCatch (do
    x
    pure (Except.ok ())) fun e => pure (Except.error e)
  call (.reply outcome)

abbrev CallCause (Req : Type) := Cause Call (fun _ => Fate) Req

/-- What happens to the service: requests come in, calls are carried out, the process dies. -/
abbrev OrderEventLog := List (Event Call (fun _ => Fate) OrderRequest)

def serveRequest (r : OrderRequest) : Serve Unit := answered r.code

end WaffleFinance.Coordinator
