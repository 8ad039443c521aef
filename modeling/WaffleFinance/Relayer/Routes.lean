import WaffleFinance.Relayer.Refund

/-!
# The routes of the relayer

The handlers of `routes/orders.ts` that move value, request by request.  What a handler does
between two waits is not interrupted; at each `await` others may run.

Two routes release ETH for a Stellar payment.  Both verify the payment, consume its hash and send
the ETH: `/api/orders/process` with the addresses of the order, and `/api/orders/xlm-to-eth` with
those of the request.
-/

namespace WaffleFinance.Relayer

open Lib Process

/-! ### `POST /api/orders/create` -/

/-- An amount as a client writes it, read by `parseFloat`. -/
inductive Numeral where
  | number (value : ℚ)
  | notANumber

structure CreateRequest where
  fromChain : Option Text
  toChain : Option Text
  fromToken : Option Text
  toToken : Option Text
  amount : Option Numeral
  ethAddress : Option Text
  stellarAddress : Option Text
  direction : Option Direction
  exchangeRate : Option ℚ := none
  networkMode : Option Network := none
  /-- The random end of the order id. -/
  random : Text

def orderIdOf (now : ℕ) (random : Text) : Text :=
  ['o', 'r', 'd', 'e', 'r', '_'] ++ Nat.toDigits 10 now ++ ['_'] ++ random

def memoPrefix : Text := ['X', 'L', 'M', '-', 'E', 'T', 'H', '-']

/-- The memo that the user is told to put on the payment. -/
def memoOf (orderId : Text) : Text := memoPrefix ++ orderId.take 8

/-- Start the monitoring of the chains unless it is on. -/
def State.ensureChainMonitoring (s : State) : State :=
  if s.monitoring then s
  else { s with monitoring := true, poller := { generation := s.poller.generation + 1 } }

/-- Store a new order.  `issued` records what was agreed on. -/
def storeActiveOrder (orderId ethAddress stellarAddress : Text) (memo : Option Text)
    (order : Order) : Task Unit := do
  modify fun s => { s with
    activeOrders := s.activeOrders.insert orderId
      { order with ethAddress := ethAddress, stellarAddress := stellarAddress }
    issued := s.issued ++ [⟨orderId, stellarAddress, ethAddress, memo⟩] }
  modify fun s => if needsChainMonitoring s.activeOrders then s.ensureChainMonitoring else s

/-- `ethers.parseEther`. -/
def parseEther (value : ℚ) : ℕ := (⌊value * 10 ^ 18⌋).toNat

def creationFailed : Response := ⟨500, "Bridge order creation failed"⟩

def createEthToXlm (c : Config) (req : CreateRequest) (orderId ethAddress stellarAddress : Text)
    (amount : Numeral) : Task Response := do
  let reqNet := req.networkMode.getD c.defaultNetwork
  let normalizedEth := ethAddress.map Char.toLower
  match amount with
  | .notANumber => pure creationFailed
  | .number value =>
    let order (s : State) : Order :=
      { direction := none
        status := .pendingDirectEscrow
        contractType := none
        stellarAddress := none
        ethAddress := none
        amount := parseEther value
        exchangeRate := req.exchangeRate.getD 10000
        created := s.now
        networkMode := reqNet }
    if reqNet = .mainnet then
      if c.enableMockMode then
        let s ← read
        storeActiveOrder orderId normalizedEth stellarAddress none { order s with
          direction := some .ethToXlm
          status := .mockEscrowCreated
          contractType := some .mockEscrowFactory
          networkMode := none }
        pure ⟨200, "MOCK: ETH→XLM escrow created"⟩
      else
        match ← await (.prices orderId .ethToXlm) with
        | none => pure creationFailed
        | some prices =>
          let s ← read
          storeActiveOrder orderId normalizedEth stellarAddress none { order s with
            status := .pendingDstEscrowDeployment
            contractType := some .oneInchEscrowFactoryMainnetDst
            exchangeRate := prices.ethToXlmRate }
          pure ⟨200, "Mainnet ETH→XLM order created"⟩
    else
      let s ← read
      storeActiveOrder orderId normalizedEth stellarAddress none (order s)
      pure ⟨200, "Testnet ETH→XLM order created"⟩

/-- The ETH of an order: the XLM at the market price, within bounds, to six digits. -/
def ethAmountOf (prices : Prices) (xlmAmt : ℚ) : ℕ :=
  let ethAmt := xlmAmt * (prices.xlmUsdPrice / prices.ethUsdPrice)
  let safeEth := min (max ethAmt (1 / 1000000)) 10
  (⌊safeEth * 1000000 + 1 / 2⌋).toNat * 10 ^ 12

def createXlmToEth (c : Config) (orderId ethAddress stellarAddress : Text) (amount : Numeral) :
    Task Response := do
  match ← await (.prices orderId .xlmToEth) with
  | none => pure creationFailed
  | some prices =>
    match amount with
    | .notANumber => pure creationFailed
    | .number xlmAmt =>
      let s ← read
      let order : Order :=
        { direction := some .xlmToEth
          status := .awaitingXlmPayment
          contractType := some .xlmToEthPending
          stellarAddress := none
          ethAddress := none
          ethAmount := ethAmountOf prices xlmAmt
          stellarAmount := xlmAmt
          exchangeRate := prices.ethToXlmRate
          created := s.now }
      if c.enableMockMode then
        storeActiveOrder orderId ethAddress stellarAddress none { order with
          status := .mockHtlcCreated
          contractType := some .mockDualHtlc
          ethAmount := none
          stellarAmount := none }
        pure ⟨200, "MOCK: XLM→ETH HTLCs created"⟩
      else
        storeActiveOrder orderId ethAddress stellarAddress (some (memoOf orderId)) order
        pure ⟨200, "XLM→ETH: Order created — Please send XLM to complete swap"⟩

def create (c : Config) (req : CreateRequest) : Task Response := do
  match given req.fromChain, given req.toChain, given req.fromToken, given req.toToken,
    req.amount, given req.ethAddress, given req.stellarAddress with
  | some fromChain, some toChain, some fromToken, some _, some amount, some ethAddress,
    some stellarAddress =>
    if !c.decideOrderRoute req.direction fromChain toChain fromToken then
      pure ⟨400, "Unsupported route"⟩
    else if !c.checkOrderSettleable req.direction then
      pure ⟨403, "settlement_permission_denied"⟩
    else
      let s ← read
      let orderId := orderIdOf s.now req.random
      match req.direction with
      | some .ethToXlm => createEthToXlm c req orderId ethAddress stellarAddress amount
      | some .xlmToEth => createXlmToEth c orderId ethAddress stellarAddress amount
      | none => pure creationFailed
  | _, _, _, _, _, _, _ => pure ⟨400, "Missing required fields"⟩

/-! ### What the two release routes share -/

/-- The answer when a payment is not verified.  The routes differ in one text. -/
def verificationRefused (txFailed : String) : VerifyError → Response
  | .txNotFound => ⟨404, "Stellar tx not found"⟩
  | .txFailed => ⟨400, txFailed⟩
  | .paymentMismatch => ⟨400, "Stellar payment mismatch"⟩
  | .horizon => ⟨503, "Horizon verification unavailable"⟩

/-- Consume the payment of a deal.  The answer is whether this is the first time. -/
def consumeProof (d : Deal) : Task Bool := do
  let s ← read
  let consumed := s.proofLedger.consume d.release.stellarTxHash
    { orderId := d.release.orderId
      verifiedAmount := d.payment.amount
      ledgerSequence := d.payment.ledgerSequence
      consumedAt := s.now }
  modify fun s => { s with
    proofLedger := consumed.2
    taken := if consumed.1 then s.taken ++ [d] else s.taken }
  pure consumed.1

/-- `Number.MAX_SAFE_INTEGER`. -/
def maxSafeInteger : ℤ := 9007199254740991

/-- The ETH for an amount of stroops at the rate of the order, with the refusals on the way. -/
def ethAmountWei (exchangeRate : Option ℚ) (stroops : ℕ) : Except Response ℕ :=
  match exchangeRate with
  | none => .error ⟨400, "Missing valid exchange rate"⟩
  | some rate =>
    if rate ≤ 0 then .error ⟨400, "Missing valid exchange rate"⟩
    else
      let rounded := ⌊rate + 1 / 2⌋
      if rounded > maxSafeInteger then
        .error ⟨400, "Exchange rate is too large to convert safely"⟩
      else if rounded = 0 then .error ⟨400, "Exchange rate rounds to zero"⟩
      else
        let wei := stroops * 10 ^ 18 / (rounded.toNat * 10 ^ 7)
        if wei = 0 then .error ⟨400, "XLM too small to release ETH"⟩ else .ok wei

/-- `assertSettlementRoute` from Stellar to Ethereum. -/
def Release.routeValid (r : Release) : Bool := r.direction ≠ some .ethToXlm

def Release.authorized (c : Config) (r : Release) : Bool :=
  c.authorized (r.direction.getD .xlmToEth)

/-- The ETH of a deal. -/
def Deal.wei (d : Deal) : Except Response ℕ :=
  ethAmountWei d.release.exchangeRate d.payment.amount

/-- 21000 gas at 20 gwei. -/
def gasCost : ℕ := 21000 * (20 * 10 ^ 9)

/-! ### `POST /api/orders/process` -/

structure ProcessRequest where
  orderId : Option Text
  txHash : Option Text := none
  stellarTxHash : Option Text := none
  stellarAddress : Option Text := none
  ethAddress : Option Text := none

/-- The exit of the `catch` block. -/
def ethReleaseFailed : Response := ⟨500, "ETH release failed"⟩

/-- After the payment is consumed. -/
def settleProcess (c : Config) (d : Deal) : Task Response := do
  match d.wei with
  | .error refusal => pure refusal
  | .ok wei =>
    if !d.release.routeValid then pure ⟨400, "invalid_route"⟩
    else if !(← await (.coordinator d)) then pure ⟨503, "coordinator_unavailable"⟩
    else if !d.release.authorized c then pure ⟨403, "settlement_permission_denied"⟩
    else
      match ← await (.ethBalance d) with
      | none => pure ethReleaseFailed
      | some balance =>
        if balance < wei + gasCost then pure ⟨400, "Insufficient relayer balance"⟩
        else
          match ← await (.ethSend d wei) with
          | none => pure ethReleaseFailed
          | some txHash =>
            match ← await (.ethConfirm d txHash) with
            | none => pure ethReleaseFailed
            | some receiptHash =>
              updateOrder d.release.orderId fun o =>
                { o with status := .completed, ethTxHash := receiptHash }
              pure ⟨200, "Cross-chain swap completed!"⟩

/-- The branch for a Stellar payment. -/
def processXlmToEth (c : Config) (orderNet : Network) (r : Release) : Task Response := do
  if !c.hasPrivateKey then pure ethReleaseFailed
  else
    let s ← read
    if s.proofLedger.isConsumed r.stellarTxHash then
      pure ⟨409, "Stellar transaction already consumed"⟩
    else
      match c.stellarAccount orderNet with
      | none => pure ⟨500, "Relayer Stellar config not available"⟩
      | some relayerPubkey =>
        if (given r.expectedSourceAccount).isNone then
          pure ⟨400, "Cannot verify payment: user Stellar address is unknown for this order"⟩
        else
          let fetched ← await (.fetchPayment r)
          match verifyIncomingStellarPayment relayerPubkey r.expectedSourceAccount fetched with
          | .error refusal => pure (verificationRefused "Stellar tx failed on-chain" refusal)
          | .ok payment =>
            if ← consumeProof ⟨r, payment⟩ then settleProcess c ⟨r, payment⟩
            else pure ⟨409, "Stellar tx consumed by concurrent request"⟩

/-- The XLM for an order from Ethereum. -/
def xlmAmountOf (order : Order) : ℚ :=
  (order.amount.getD 1000000000000000 : ℚ) / 10 ^ 18 * order.exchangeRate.getD 10000

/-- The branch for an Ethereum transaction: pay the user's XLM. -/
def processEthToXlm (c : Config) (orderId : Text) (order : Order) : Task Response := do
  let network := match order.contractType with
    | some .oneInchEscrowFactory | some .oneInchEscrowFactoryMainnetDst => Network.mainnet
    | _ => .testnet
  if (c.stellarAccount network).isNone then pure ⟨502, "Stellar transaction failed"⟩
  else
    match ← await (.xlmBalance orderId) with
    | none => pure ⟨502, "Stellar transaction failed"⟩
    | some balance =>
      if balance < xlmAmountOf order then pure ⟨502, "Stellar transaction failed"⟩
      else
        match ← await (.xlmSend orderId) with
        | none => pure ⟨502, "Stellar transaction failed"⟩
        | some hash =>
          updateOrder orderId fun o => { o with status := .completed, stellarTxHash := hash }
          pure ⟨200, "Cross-chain swap completed!"⟩

/-- Pay the XLM for an order whose escrow is deployed. -/
def processEscrowToStellar (c : Config) (orderId : Text) (order : Order) : Task Unit := do
  let failed : Task Unit := updateOrder orderId fun o => { o with status := .stellarTransferFailed }
  if (c.stellarAccount .mainnet).isNone then failed
  else
    match ← await (.xlmBalance orderId), order.amount with
    | none, _ => failed
    | _, none => failed
    | some balance, some wei =>
      let rounded := ⌊order.exchangeRate.getD 10000 + 1 / 2⌋
      let stroops : ℕ := wei * rounded.toNat / 10 ^ 18
      if rounded > maxSafeInteger then failed
      else if balance < (stroops : ℚ) / 10 ^ 7 then failed
      else
        match ← await (.xlmSend orderId) with
        | none => failed
        | some hash =>
          updateOrder orderId fun o => { o with status := .completed, stellarTxHash := hash }

def process (c : Config) (req : ProcessRequest) : Task Response := do
  match given req.orderId with
  | none => pure ⟨400, "Order ID is required"⟩
  | some orderId =>
    let s ← read
    match s.activeOrders.get orderId with
    | none => pure ⟨404, "Order not found"⟩
    | some order =>
      if order.contractType = some .oneInchEscrowFactory ∧
          order.status = .pendingEscrowDeployment then
        updateOrder orderId fun o => { o with status := .escrowDeployed, ethTxHash := req.txHash }
        processEscrowToStellar c orderId order
        pure ⟨200, "Escrow deployed and Stellar transfer initiated"⟩
      else
        match given req.stellarTxHash, given req.txHash with
        | some stellarTxHash, none =>
          processXlmToEth c (order.networkMode.getD .mainnet)
            { route := .process
              orderId := orderId
              stellarTxHash := stellarTxHash
              expectedSourceAccount := order.stellarAddress <|> req.stellarAddress
              ethAddress := order.ethAddress <|> req.ethAddress
              direction := order.direction
              exchangeRate := order.exchangeRate }
        | none, some _ => processEthToXlm c orderId order
        | _, _ => pure ⟨500, "Order processing failed"⟩

/-! ### `POST /api/orders/xlm-to-eth` -/

structure XlmToEthRequest where
  orderId : Option Text
  stellarTxHash : Option Text
  stellarAddress : Option Text := none
  ethAddress : Option Text
  networkMode : Option Network := none

/-- What the request writes into the order before anything is verified. -/
def Order.receiveXlm (now : ℕ) (reqNet : Network) (r : Release) (order : Order) : Order :=
  { order with
    xlmReceivedAt := order.xlmReceivedAt.getD now
    stellarTxHash := r.stellarTxHash
    stellarAddress := given r.expectedSourceAccount <|> order.stellarAddress
    networkMode := order.networkMode.getD reqNet }

/-- The refund when an Ethereum call has failed. -/
def inlineRefund (relayerPubkey : Text) (d : Deal) : Task Response := do
  let orderId := d.release.orderId
  match given d.release.expectedSourceAccount with
  | none => pure ethReleaseFailed
  | some stellarAddress =>
    let s ← read
    if (s.refundLedger.claim orderId).1 = false then
      match s.refundLedger orderId with
      | some (.committed txHash _ _ _) =>
        updateOrder orderId fun o => { o with status := .refunded, refundTxHash := txHash }
        pure ethReleaseFailed
      | _ => pure ethReleaseFailed
    else
      updateRefunds fun l => (l.claim orderId).2
      let outcome ← refundXlmToUser
        { refund := ⟨orderId, stellarAddress, d.release.stellarTxHash⟩
          publicKey := relayerPubkey
          fallbackStroops := d.payment.amount
          maxRetries := 2 }
      let s ← read
      match outcome with
      | .ok refund =>
        updateOrder orderId fun o => { o with status := .refunded, refundTxHash := refund.hash }
      | .error (.horizon .timeout) =>
        updateOrder orderId (Order.watchdogFailed s.now)
        updateRefunds fun l => l.markAmbiguous s.now orderId
      | .error _ => updateRefunds fun l => l.release orderId
      pure ethReleaseFailed

/-- After the payment is consumed. -/
def settleXlmToEth (c : Config) (relayerPubkey : Text) (d : Deal) : Task Response := do
  if !d.release.routeValid then pure ⟨400, "invalid_route"⟩
  else if !(← await (.coordinator d)) then pure ⟨503, "coordinator_unavailable"⟩
  else if !d.release.authorized c then pure ⟨403, "settlement_permission_denied"⟩
  else
    match ← await (.ethBalance d) with
    | none => inlineRefund relayerPubkey d
    | some balance =>
      match d.wei with
      | .error refusal => pure refusal
      | .ok wei =>
        if balance < wei + gasCost then pure ⟨400, "Insufficient relayer balance"⟩
        else
          match ← await (.ethSend d wei) with
          | none => inlineRefund relayerPubkey d
          | some txHash =>
            updateOrder d.release.orderId fun o =>
              { o with status := .ethTxSent, ethTxHash := txHash }
            pure ⟨200, "XLM→ETH transfer broadcasted"⟩

def xlmToEth (c : Config) (req : XlmToEthRequest) : Task Response := do
  match given req.orderId, given req.stellarTxHash, given req.ethAddress with
  | some orderId, some stellarTxHash, some ethAddress =>
    let reqNet := req.networkMode.getD c.defaultNetwork
    let s ← read
    if s.proofLedger.isConsumed stellarTxHash then
      pure ⟨409, "Stellar transaction already consumed"⟩
    else
      match s.activeOrders.get orderId with
      | none => pure ⟨404, "Order not found"⟩
      | some order =>
        let r : Release :=
          { route := .xlmToEth
            orderId := orderId
            stellarTxHash := stellarTxHash
            expectedSourceAccount := req.stellarAddress
            ethAddress := some ethAddress
            direction := order.direction
            exchangeRate := order.exchangeRate }
        updateOrder orderId (Order.receiveXlm s.now reqNet r)
        if !c.hasPrivateKey then pure ⟨500, "XLM→ETH processing failed"⟩
        else if order.direction = some .ethToXlm then pure ⟨400, "Order direction mismatch"⟩
        else if order.status = .ethTxSent ∨ order.status = .completed then
          pure ⟨200, "Order already settled."⟩
        else if order.status = .refunded ∨ order.status = .stellarTransferFailed then
          pure ⟨409, "Order in terminal state"⟩
        else if reqNet = .other then pure ⟨500, "XLM→ETH processing failed"⟩
        else
          match c.stellarAccount reqNet with
          | none => pure ⟨500, "Relayer Stellar secret not configured"⟩
          | some relayerPubkey =>
            let fetched ← await (.fetchPayment r)
            match verifyIncomingStellarPayment relayerPubkey r.expectedSourceAccount fetched with
            | .error refusal => pure (verificationRefused "Stellar tx failed" refusal)
            | .ok payment =>
              if ← consumeProof ⟨r, payment⟩ then
                settleXlmToEth c relayerPubkey ⟨r, payment⟩
              else pure ⟨409, "Stellar tx consumed by concurrent request"⟩
  | _, _, _ => pure ⟨400, "Missing required fields: orderId, stellarTxHash, ethAddress"⟩

/-! ### `POST /api/orders/manual-refund` -/

structure ManualRefundRequest where
  stellarTxHash : Option Text
  stellarAddress : Option Text
  networkMode : Option Network := none
  orderId : Option Text := none

/-- The order of the request, else the first with the hash, else the hash itself. -/
def ManualRefundRequest.orderIdIn (req : ManualRefundRequest) (stellarTxHash : Text)
    (activeOrders : Orders) : Text :=
  match req.orderId with
  | some orderId => orderId
  | none =>
    match activeOrders.first (fun _ o => o.stellarTxHash = some stellarTxHash) with
    | some entry => entry.1
    | none => stellarTxHash

/-- Pay the refund that is claimed. -/
def payManualRefund (relayerPubkey : Text) (refund : Refund) (payment : VerifiedStellarPayment) :
    Task Response := do
  let outcome ← refundXlmToUser
    { refund := refund
      publicKey := relayerPubkey
      fallbackStroops := payment.amount
      maxRetries := 2 }
  let s ← read
  match outcome with
  | .ok paid =>
    updateOrder refund.orderId fun o =>
      { o with status := .refunded, refundTxHash := paid.hash }
    pure ⟨200, "Manual refund successful"⟩
  | .error (.horizon .timeout) =>
    updateRefunds fun l => l.markAmbiguous s.now refund.orderId
    pure ⟨202, "Refund submitted but outcome ambiguous (Horizon timeout)"⟩
  | .error _ =>
    updateRefunds fun l => l.release refund.orderId
    pure ⟨500, "Manual refund failed"⟩

def manualRefundRefused : VerifyError → Response
  | .txNotFound => ⟨404, "Stellar tx not found"⟩
  | .txFailed => ⟨400, "Stellar tx failed on-chain"⟩
  | .paymentMismatch =>
    ⟨400, "Original tx does not match a payment to the relayer from this address"⟩
  | .horizon => ⟨404, "Could not verify original transaction"⟩

def manualRefund (c : Config) (req : ManualRefundRequest) : Task Response := do
  match given req.stellarTxHash, given req.stellarAddress with
  | some stellarTxHash, some stellarAddress =>
    let refundNet := if req.networkMode = some .mainnet then Network.mainnet else .testnet
    let s ← read
    let orderId := req.orderIdIn stellarTxHash s.activeOrders
    match s.refundLedger orderId with
    | some (.committed ..) => pure ⟨200, "Manual refund successful"⟩
    | some .inFlight => pure ⟨409, "Refund already in_flight"⟩
    | some (.ambiguous _) => pure ⟨409, "Refund already ambiguous"⟩
    | none =>
      -- there is no entry, so the claim is granted
      updateRefunds fun l => (l.claim orderId).2
      match c.stellarAccount refundNet with
      | none =>
        updateRefunds fun l => l.release orderId
        pure ⟨500, "Relayer Stellar secret not configured"⟩
      | some relayerPubkey =>
        let refund : Refund := ⟨orderId, stellarAddress, some stellarTxHash⟩
        let fetched ← await (.fetchRefunded refund)
        match verifyIncomingStellarPayment relayerPubkey (some stellarAddress) fetched with
        | .error refusal =>
          updateRefunds fun l => l.release orderId
          pure (manualRefundRefused refusal)
        | .ok payment => payManualRefund relayerPubkey refund payment
  | _, _ => pure ⟨400, "Missing required fields: stellarTxHash, stellarAddress"⟩

end WaffleFinance.Relayer
