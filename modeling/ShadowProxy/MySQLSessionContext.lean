import ShadowProxy.MySQLMirrorDelivery

/-! The database that the two servers of a mirrored session have selected. A client selects it with
COM_INIT_DB, which always goes to the shadow, or with a USE statement, which is subject to the filter
as every query is. -/
namespace ShadowProxy.MySQLSessionContext
open WordBytes EventHistory NetConn MySQLPacket MySQLPacketReader MySQLProxyLoop ShadowFilter QueryLog
  WorkQueue MySQLShadowWorker MySQLMirrorSession MySQLMirrorServe MySQLMirrorDelivery

section Database
variable (uses : Bytes → Option Bytes)

/-- The database that a command selects. The servers take a query text for a single USE statement as
`uses` says. -/
def selects (packet : Bytes) : Option Bytes :=
  let cmd := (getMySQLCommand packet).1
  if cmd = comInitDB then some (packet.drop 5)
  else if cmd = comQuery then uses (packet.drop 5)
  else none

/-- The database of a server that has received these commands, all of which succeeded; `none` is the
one that the session has started with. -/
def currentDatabase (history : List Bytes) : Option Bytes :=
  (history.filterMap (selects uses)).getLast?

/-- Whenever a USE statement is about to be mirrored, the filter and the sampling let it through. -/
def PassesUse (cfg : Config) (s : Session) (acts : List Action) : Prop :=
  EachStep (fun before act => act = .conn → ∀ req,
    (s.exec cfg before).front.point = .mirroring req →
      (getMySQLCommand req.packet).1 = comQuery → (uses (req.packet.drop 5)).isSome →
      cfg.Allows (s.exec cfg before).front.primary.sent.length req) acts

variable {uses}

lemma currentDatabase_eq_filter (history : List Bytes) :
    currentDatabase uses history =
      ((history.filter fun packet => (selects uses packet).isSome).filterMap (selects uses)).getLast? := by
  rw [currentDatabase, List.filterMap_filter]
  congr 2
  funext packet
  cases selects uses packet <;> rfl

lemma selects_cases {packet : Bytes} (h : (selects uses packet).isSome) :
    (getMySQLCommand packet).1 = comInitDB ∨
      ((getMySQLCommand packet).1 = comQuery ∧ (uses (packet.drop 5)).isSome) := by
  by_cases hinit : (getMySQLCommand packet).1 = comInitDB
  · exact .inl hinit
  · by_cases hquery : (getMySQLCommand packet).1 = comQuery
    · exact .inr ⟨hquery, by simpa [selects, hquery, show comQuery ≠ comInitDB by decide] using h⟩
    · simp [selects, hinit, hquery] at h

end Database

section Context
variable {uses : Bytes → Option Bytes} {cfg : Config} {client primary shadow : Conn}
  {logger : QueryLogger} {acts : List Action}

lemma PassesUse.not_filtered (h : PassesUse uses cfg (.start client primary shadow logger) acts)
    {req : QueryRequest} {reason : FilterReason}
    (hx : (req, .filtered reason) ∈
      ((Session.start client primary shadow logger).exec cfg acts).back.ledger) :
    ¬ (selects uses req.packet).isSome := by
  intro hselects
  rcases selects_cases hselects with hinit | ⟨hquery, huse⟩
  · have hb := exec_booked cfg client primary shadow logger acts
    have htext : req.queryText = MySQLProxyLoop.queryText req.packet := hb.queryText hx
    refine (hb.fits _ hx).2 (htext.trans ?_)
    simp [queryText, hinit, comInitDB, comQuery]
  · obtain ⟨before, after, rfl, hsettles⟩ := exec_settled hx
    cases hsettles with
    | filtered hp ha => exact ha (h before .conn after rfl rfl req hp hquery huse)

lemma PassesUse.queued (h : PassesUse uses cfg (.start client primary shadow logger) acts)
    {x : QueryRequest × Fate}
    (hx : x ∈ ((Session.start client primary shadow logger).exec cfg acts).back.ledger)
    (hfull : x.2 ≠ .offered .full) (hsent : x.2 ≠ .unsent)
    (hselects : (selects uses x.1.packet).isSome) : x.2 = .offered .queued := by
  have hb := exec_booked cfg client primary shadow logger acts
  have hfits := hb.fits x hx
  obtain ⟨req, fate⟩ := x
  cases fate with
  | unsent => exact absurd rfl hsent
  | quit =>
    have hquit : (getMySQLCommand req.packet).1 = comQuit := hfits
    rcases selects_cases hselects with hcmd | ⟨hcmd, -⟩ <;> rw [hquit] at hcmd <;>
      exact absurd hcmd (by decide)
  | filtered reason => exact absurd hselects (h.not_filtered hx)
  | offered sent =>
    cases sent with
    | queued => rfl
    | full => exact absurd rfl hfull
    | closed => exact absurd rfl hfits.2

/-- In every run without a queue drop in which every USE statement passes the filter and the
sampling, a query that is sent to the shadow finds the same database there as it did on the
primary. -/
theorem query_database_agrees (hpass : PassesUse uses cfg (.start client primary shadow logger) acts)
    {before after : List Bytes} {packet : Bytes} :
    let s := (Session.start client primary shadow logger).exec cfg acts
    (∀ x ∈ s.back.ledger, x.2 ≠ .offered .full) →
    s.back.service.worker.state.conn.sent = shadow.sent ++ (before ++ packet :: after) →
    (getMySQLCommand packet).1 = comQuery →
    ∃ req earlier later, s.processed[before.length]? = some req ∧ req.packet = packet ∧
      s.front.primary.sent = primary.sent ++ (earlier ++ packet :: later) ∧
      earlier.length = req.id ∧ currentDatabase uses before = currentDatabase uses earlier := by
  intro s hfull hsent hquery
  have hb : Booked primary (.start shadow logger) s :=
    exec_booked cfg client primary shadow logger acts
  obtain ⟨req, l₁, l₂, hl, rfl, hprocessed, rfl⟩ := mirrored_place hb hsent
  obtain ⟨hid, hsent₁, later, hprimary⟩ := booked_place hb (by simp) hl
  refine ⟨req, _, later, hprocessed, rfl, hprimary, by simp [hid], ?_⟩
  have hqueued : ∀ x ∈ l₁, (selects uses x.1.packet).isSome = true → x.2 = .offered .queued := by
    intro x hx hselects
    have hmem : x ∈ s.back.ledger := by rw [hl]; exact List.mem_append_left _ hx
    exact hpass.queued hmem (hfull x hmem) (hsent₁ x hx) hselects
  rw [currentDatabase_eq_filter, currentDatabase_eq_filter, filter_queued hqueued]

end Context

/-- The name in a text of the form `USE name`. -/
def useName (text : Bytes) : Option Bytes :=
  if (text.take 4).map asciiUpper = ascii "USE " ∧ semicolon ∉ text then some (text.drop 4) else none

def useB : Packet := commandPacket comQuery (ascii "USE b") (by decide)

def selectOne : Packet := commandPacket comQuery (ascii "SELECT 1") (by decide)

def contextScript : Script :=
  [(useB, [.queue, .idle, .idle]), (selectOne, [.queue, .idle, .idle])]

def contextRun (cfg : Config) : Session :=
  (contextScript.session (scriptServer okReply) none).exec cfg (contextScript.whole [])

lemma contextRun_sent (cfg : Config) :
    (contextRun cfg).back.service.worker.state.conn.sent =
        (contextRun cfg).processed.map QueryRequest.packet ∧
      (contextRun cfg).front.primary.sent =
        (forwarded (contextRun cfg).back.ledger).map QueryRequest.packet ∧
      (contextRun cfg).back = contextScript.outcome cfg (scriptServer okReply) none [] := by
  unfold contextRun
  exact script_sent _ (script_servable contextScript (by decide)) _

def noDelete : Config :=
  ⟨some ⟨.excludeMode, [], [fun text => (ascii "DELETE").isPrefixOf text], id⟩, fun _ => false, 100⟩

lemma noDelete_allows (roll : ℕ) {req : QueryRequest} (h : ¬ ascii "DELETE" <+: req.queryText) :
    noDelete.Allows roll req := by
  intro f hf
  obtain rfl : _ = f := Option.mem_some_iff.mp hf
  simp [noDelete, QueryFilter.allow, QueryFilter.passesFilter, QueryFilter.matchExclude,
    QueryFilter.matchAnyPattern, h]

lemma noDelete_passesUse (client primary shadow : Conn) (logger : QueryLogger) (acts : List Action) :
    PassesUse useName noDelete (.start client primary shadow logger) acts := by
  rintro before act after rfl rfl req hp hquery huse
  have hb := exec_booked noDelete client primary shadow logger before
  have hreq : req ∈ ((Session.start client primary shadow logger).exec noDelete before).requests :=
    List.mem_append_right _ (by simp [hp, Point.unsettled])
  have htext : req.queryText = queryText req.packet := congrArg QueryRequest.queryText (hb.made req hreq)
  refine noDelete_allows _ ?_
  rintro ⟨rest, hrest⟩
  obtain ⟨hname, -⟩ : ((req.packet.drop 5).take 4).map asciiUpper = ascii "USE " ∧ _ := by
    simpa [useName] using huse
  rw [htext, queryText] at hrest
  split_ifs at hrest
  · rw [← hrest, List.take_append_of_le_length (by decide)] at hname
    exact absurd hname (by decide)
  · simp [ascii] at hrest

theorem query_database_agrees_noDelete :
    ∃ req earlier later, (contextRun noDelete).processed[1]? = some req ∧
      req.packet = selectOne.bytes ∧
      (contextRun noDelete).front.primary.sent =
        (scriptServer okReply).sent ++ (earlier ++ selectOne.bytes :: later) ∧
      earlier.length = req.id ∧
      currentDatabase useName [useB.bytes] = currentDatabase useName earlier := by
  obtain ⟨hshadow, -, hback⟩ := contextRun_sent noDelete
  have hsent : (contextRun noDelete).back.service.worker.state.conn.sent =
      (scriptServer okReply).sent ++ ([useB.bytes] ++ selectOne.bytes :: []) := by
    rw [hshadow, Session.processed, hback]
    rfl
  have hfull : ∀ x ∈ (contextRun noDelete).back.ledger, x.2 ≠ .offered .full := by
    rw [hback]
    decide +kernel
  unfold contextRun Script.session at hsent hfull ⊢
  obtain ⟨req, earlier, later, hreq, hpacket, hprimary, hid, hsame⟩ :=
    query_database_agrees (noDelete_passesUse _ _ _ _ _) hfull hsent (by decide)
  exact ⟨req, earlier, later, hreq, hpacket, hprimary, hid, hsame⟩

def onlySelect : Config := ⟨some ⟨.includeMode, [ascii "SELECT"], [], id⟩, fun _ => false, 100⟩

/-- Only SELECT is mirrored, and so the query runs in `b` on the primary and in the database of the
login on the shadow. Nothing is dropped. -/
theorem filtered_use_desynchronizes :
    (contextRun onlySelect).back.service.worker.state.conn.sent = [selectOne.bytes] ∧
      (contextRun onlySelect).front.primary.sent =
        [useB.bytes, selectOne.bytes, quitPacket.bytes] ∧
      (∀ x ∈ (contextRun onlySelect).back.ledger, x.2 ≠ .offered .full) ∧
      (getMySQLCommand selectOne.bytes).1 = comQuery ∧
      currentDatabase useName [] = none ∧
      currentDatabase useName [useB.bytes] = some (ascii "b") := by
  obtain ⟨hshadow, hprimary, hback⟩ := contextRun_sent onlySelect
  refine ⟨hshadow.trans ?_, hprimary.trans ?_, ?_, by decide, rfl, by decide⟩
  · rw [Session.processed, hback]
    rfl
  · rw [hback]
    rfl
  · rw [hback]
    decide +kernel

end ShadowProxy.MySQLSessionContext
