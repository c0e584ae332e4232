import ShadowProxy.MySQLMirrorServe
import ShadowProxy.MySQLSpecialReplies

/-! LOAD DATA LOCAL INFILE: the primary answers a query with a request for a file, and the client
sends the file in packets of its own choice, the last of them empty. The loop takes each of them for
the next command. -/
namespace ShadowProxy.MySQLLocalInfile
open WordBytes NetConn MySQLPacket MySQLPacketReader MySQLResponse MySQLReplyStream MySQLReply
  MySQLProxyLoop MySQLMirrorServe MySQLSpecialReplies ShadowFilter

/-- A query that the primary answers with a request for a file, the file, and the reply behind it. A
content packet that is too long for one packet on the wire is split like a command. -/
structure Infile where
  query : List Packet
  request : Packet
  contents : List (List Packet)
  terminator : Packet
  reply : List Packet
  isQuery : (getMySQLCommand (wire query)).1 = comQuery
  isRequest : IsLocalInfile request
  isSplit : ∀ content ∈ contents, IsCommand (content.map Packet.bytes)
  nonempty : ∀ content ∈ contents, (getMySQLCommand (wire content)).2 = true
  isEnd : terminator.payload = []
  isReply : Reply reply

/-- The request has been relayed. The client sends the file, and the primary says nothing until it
has got all of it. -/
structure Uploads (x : Infile) (t : LoopState) : Prop where
  clientInv : Inv t.clientReader
  clientWritable : t.client.writable = none
  primaryWritable : t.primary.writable = none
  file : ∃ later, unread t.clientReader ++ t.client.ready =
    wire (x.contents.flatten ++ [x.terminator]) ++ later
  primaryInv : Inv t.primaryReader
  primaryClean : t.primary.Clean
  idle : unread t.primaryReader ++ t.primary.ready = []
  silent : ∀ contents, contents ≠ [] → contents <+: x.contents →
    t.primary.respond (t.primary.sent ++ contents.map wire) = []
  answer : ∃ rest, readyBytes (t.primary.respond
    (t.primary.sent ++ x.contents.map wire ++ [x.terminator.bytes])) = wire x.reply ++ rest

/-- Since `t`, the whole file has gone to the primary and the reply to the client, and no content
packet has been offered to the shadow. -/
def Serves (x : Infile) (t u : LoopState) : Prop :=
  u.primary.sent = t.primary.sent ++ x.contents.map wire ++ [x.terminator.bytes] ∧
    u.client.sent = t.client.sent ++ x.reply.map Packet.bytes ∧
    ∃ offers, u.offered = t.offered ++ offers ∧ ∀ content ∈ x.contents, wire content ∉ offers

section Loop
variable {filter : Option QueryFilter} {sampledOut : ℕ → Bool} {s t : LoopState}

lemma offer_grows (filter : Option QueryFilter) (sampledOut : ℕ → Bool) (s : LoopState)
    (packet : Bytes) : s.offered <+: (s.offer filter sampledOut packet).offered := by
  unfold LoopState.offer
  split_ifs
  · exact List.prefix_rfl
  · cases filter with
    | none => exact List.prefix_append _ _
    | some f =>
      dsimp only
      split_ifs
      · exact List.prefix_append _ _
      · exact List.prefix_rfl

lemma turn_offered (filter : Option QueryFilter) (sampledOut : ℕ → Bool) (s : LoopState) :
    s.offered <+: (turn filter sampledOut s).1.offered := by
  unfold turn
  rcases readMultiPacket s.clientReader s.client with ⟨e | packet, r, client⟩
  · exact List.prefix_rfl
  · dsimp only
    rcases s.primary.write packet with ⟨_ | e, primary⟩
    · have hgrows := offer_grows filter sampledOut
        ⟨client, primary, r, s.primaryReader, s.offered⟩ packet
      dsimp only
      split_ifs
      · exact hgrows
      · exact hgrows
    · exact List.prefix_rfl

lemma run_offered (filter : Option QueryFilter) (sampledOut : ℕ → Bool) (n : ℕ) (s : LoopState) :
    s.offered <+: (run filter sampledOut n s).offered := by
  induction n generalizing s with
  | zero => exact List.prefix_rfl
  | succ n ih =>
    have hgrows := turn_offered filter sampledOut s
    rw [run]
    rcases ht : turn filter sampledOut s with ⟨t, _ | _⟩
    · rwa [ht] at hgrows
    · rw [ht] at hgrows
      exact hgrows.trans (ih t)

lemma offer_passes {packet : Bytes} (hquit : (getMySQLCommand packet).1 ≠ comQuit)
    (htext : queryText packet = []) :
    s.offer filter sampledOut packet = { s with offered := s.offered ++ [packet] } := by
  unfold LoopState.offer
  rw [if_neg hquit]
  cases filter with
  | none => rfl
  | some f => simp [QueryFilter.allow, htext]

lemma readPacket_starved {r : Reader} {c : Conn} (hr : Inv r) (hu : unread r = [])
    (hc : c.pending.flatMap Segment.bytes = []) : ∃ e r' c', readPacket r c = (.error e, r', c') ∧ Reads c c' := by
  rcases hp : readPacket r c with ⟨e | p, r', c'⟩
  · exact ⟨e, r', c', rfl, (readPacket_error hr hp).reads⟩
  · obtain ⟨hw, -, hreads, new, hnew, hrec⟩ := readPacket_ok hr hp
    have hstream := hreads.stream
    rw [Conn.stream, Conn.stream, hrec, hc, List.append_assoc] at hstream
    have hnil : new = [] := (List.append_eq_nil_iff.mp
      (List.append_cancel_left (hstream.trans (by simp)))).1
    rw [hu, hnil] at hnew
    have hp' : p = [] := (List.append_eq_nil_iff.mp hnew.symm).1
    have := hw.1
    simp [hp'] at this

lemma forwardReply_starved (cmd : UInt8) {r : Reader} {c : Conn} (dest : Conn) (hr : Inv r)
    (hu : unread r = []) (hc : c.pending.flatMap Segment.bytes = []) :
    ∃ e n r' c', forwardReply cmd r c dest = ⟨n, some e, ((r', c'), dest)⟩ ∧ Reads c c' := by
  obtain ⟨e, r', c', hp, hreads⟩ := readPacket_starved hr hu hc
  have hrelay : ∀ what, forwardRelay what ((r, c), dest) = (.error e, (r', c'), dest) := by
    intro what
    simp [forwardRelay, hp]
  refine ⟨e, 0, r', c', ?_, hreads⟩
  unfold forwardReply
  split_ifs
  · rw [readAndForwardSimpleResponse, hrelay]
  · rw [readAndForwardResponse_eq, responseLoop, hrelay]

lemma forwardRelay_reads (p : Conn) :
    Guards forwardRelay (fun s => Inv s.1.1 ∧ Reads p s.1.2) (fun s => Reads p s.1.2) where
  ok := by
    rintro what s q s' ⟨hinv, hreads⟩ hq
    have hp := forwardRelay_read hq
    obtain ⟨-, hinv', hreads', -⟩ := readPacket_ok hinv hp
    exact ⟨hinv', hreads.trans hreads'⟩
  err := by
    rintro what s e s' ⟨hinv, hreads⟩ hq
    unfold forwardRelay at hq
    rcases hp : readPacket s.1.1 s.1.2 with ⟨e' | packet, r, c⟩
    · simp only [hp, Prod.mk.injEq] at hq
      rw [← hq.2]
      exact hreads.trans (readPacket_error hinv hp).reads
    · rcases hw : s.2.write packet with ⟨_ | e', dest⟩
      · simp [hp, hw] at hq
      · simp only [hp, hw, Prod.mk.injEq] at hq
        rw [← hq.2]
        exact hreads.trans (readPacket_ok hinv hp).2.2.1
  weaken := fun h => h.2

lemma forwardReply_reads {cmd : UInt8} {r r' : Reader} {p p' d d' : Conn} (hr : Inv r) {n : ℕ}
    {err : Option Err} (h : forwardReply cmd r p d = ⟨n, err, ((r', p'), d')⟩) : Reads p p' := by
  have hkeeps := (forwardReply_guarded (forwardRelay_reads p) cmd (d := d) ⟨hr, Reads.refl p⟩).1
  rwa [h] at hkeeps

lemma run_stopped (h : turn filter sampledOut s = (t, false)) (n : ℕ) :
    run filter sampledOut (n + 1) s = t := by
  rw [run, h]

lemma run_goes_on (h : turn filter sampledOut s = (t, true)) (n : ℕ) :
    run filter sampledOut (n + 1) s = run filter sampledOut n t := by
  rw [run, h]

section Command
variable {packet : Bytes} {r : Reader} {client primary : Conn}

lemma turn_unanswered (hread : readMultiPacket s.clientReader s.client = (.ok packet, r, client))
    (hwrite : s.primary.write packet = (none, primary))
    (hno : isNoResponseCommand (getMySQLCommand packet).1 = true) :
    turn filter sampledOut s =
      (LoopState.offer filter sampledOut ⟨client, primary, r, s.primaryReader, s.offered⟩ packet,
        decide ((getMySQLCommand packet).1 ≠ comQuit)) := by
  simp only [turn, hread, hwrite, hno, if_true]

lemma turn_answered (hread : readMultiPacket s.clientReader s.client = (.ok packet, r, client))
    (hwrite : s.primary.write packet = (none, primary))
    (hno : isNoResponseCommand (getMySQLCommand packet).1 = false) {n : ℕ} {err : Option Err}
    {r' : Reader} {primary' client' : Conn}
    (hreply : forwardReply (getMySQLCommand packet).1 s.primaryReader primary client =
      ⟨n, err, ((r', primary'), client')⟩) :
    turn filter sampledOut s =
      (⟨client', primary', r, r', (LoopState.offer filter sampledOut
        ⟨client, primary, r, s.primaryReader, s.offered⟩ packet).offered⟩, decide (err = none)) := by
  obtain ⟨offered, hoffer⟩ := offer_eq filter sampledOut
    ⟨client, primary, r, s.primaryReader, s.offered⟩ packet
  simp only [turn, hread, hwrite, hno, hoffer, hreply, Bool.false_eq_true, if_false]

end Command

end Loop

section Upload
variable {filter : Option QueryFilter} {sampledOut : ℕ → Bool} {x : Infile} {s t u : LoopState}

lemma Serves.primary_length (h : Serves x t u) :
    u.primary.sent.length = t.primary.sent.length + x.contents.length + 1 := by
  simp [h.1, Nat.add_assoc]

lemma Uploads.write (h : Uploads x t) (bs : Bytes) :
    unread t.primaryReader = [] ∧ ∃ primary, t.primary.write bs = (none, primary) ∧
      primary.sent = t.primary.sent ++ [bs] ∧
      primary.pending.flatMap Segment.bytes =
        (t.primary.respond (t.primary.sent ++ [bs])).flatMap Segment.bytes ∧
      primary.ready = readyBytes (t.primary.respond (t.primary.sent ++ [bs])) := by
  obtain ⟨hunread, hready⟩ := List.append_eq_nil_iff.mp h.idle
  obtain ⟨primary, hwrite, -⟩ := write_unlimited h.primaryWritable bs
  have hpending := (write_pending hwrite).1
  have hbytes : t.primary.pending.flatMap Segment.bytes = [] := by
    rwa [← readyBytes_of_clean h.primaryClean]
  refine ⟨hunread, primary, hwrite, (write_ok hwrite).1, ?_, ?_⟩
  · rw [hpending, List.flatMap_append, hbytes, List.nil_append]
  · rw [Conn.ready, hpending, readyBytes_append h.primaryClean, hbytes, List.nil_append]

/-- The first content packet is taken for a command: it is offered to the shadow, or the loop is over
when it has been written. -/
lemma Uploads.first_content (filter : Option QueryFilter) (sampledOut : ℕ → Bool) (h : Uploads x t)
    {content : List Packet} {contents : List (List Packet)} (hx : x.contents = content :: contents) :
    ∃ u go, turn filter sampledOut t = (u, go) ∧
      if go then u.offered = t.offered ++ [wire content]
      else u.primary.sent.length = t.primary.sent.length + 1 := by
  obtain ⟨later, hfile⟩ := h.file
  have hready : unread t.clientReader ++ t.client.ready =
      wire content ++ (wire (contents.flatten ++ [x.terminator]) ++ later) := by
    rw [hfile, hx]
    simp [wire]
  obtain ⟨r, client, hread⟩ := readMultiPacket_ready h.clientInv
    (x.isSplit content (by simp [hx])) hready
  obtain ⟨hunread, primary, hwrite, hsent, hpending, -⟩ := h.write (wire content)
  rcases hno : isNoResponseCommand (getMySQLCommand (wire content)).1 with _ | _
  · have hsilent := h.silent [content] (by simp) (by simp [hx])
    rw [List.map_singleton] at hsilent
    rw [hsilent] at hpending
    obtain ⟨e, n, r', primary', hreply, hreads⟩ := forwardReply_starved
      (getMySQLCommand (wire content)).1 client h.primaryInv hunread hpending
    refine ⟨_, _, turn_answered hread hwrite hno hreply, ?_⟩
    simp [hreads.sent, hsent]
  · refine ⟨_, _, turn_unanswered hread hwrite hno, ?_⟩
    by_cases hquit : (getMySQLCommand (wire content)).1 = comQuit
    · obtain ⟨offered, hoffer⟩ := offer_eq filter sampledOut
        ⟨client, primary, r, t.primaryReader, t.offered⟩ (wire content)
      simp [hquit, hoffer, hsent]
    · have htext : queryText (wire content) = [] := by
        apply if_neg
        rintro ⟨hq, -⟩
        rw [hq] at hno
        exact absurd hno (by decide)
      simp [hquit, offer_passes hquit htext]

lemma Uploads.not_serves (h : Uploads x t) (hx : x.contents ≠ []) (n : ℕ) :
    ¬ Serves x t (run filter sampledOut n t) := by
  intro hserves
  obtain ⟨content, contents, hx⟩ := List.exists_cons_of_ne_nil hx
  have hlength := hserves.primary_length
  rw [hx, List.length_cons] at hlength
  cases n with
  | zero =>
    rw [run] at hlength
    omega
  | succ n =>
    obtain ⟨u, go, hturn, hu⟩ := h.first_content filter sampledOut hx
    cases go with
    | true =>
      obtain ⟨-, -, offers, hoffers, hnot⟩ := hserves
      rw [run_goes_on hturn] at hoffers
      have hgrows := run_offered filter sampledOut n u
      rw [hoffers, show u.offered = _ from hu, List.prefix_append_right_inj] at hgrows
      exact hnot content (by simp [hx]) (hgrows.subset (by simp))
    | false =>
      rw [run_stopped hturn, show u.primary.sent.length = _ from hu] at hlength
      omega

/-- An empty file is an empty packet, which is taken for a command with an answer. -/
lemma Uploads.serves_empty (h : Uploads x t) (hx : x.contents = []) :
    Serves x t (run filter sampledOut 1 t) := by
  obtain ⟨later, hfile⟩ := h.file
  have hready : unread t.clientReader ++ t.client.ready = wire [x.terminator] ++ later := by
    simpa [hx] using hfile
  have hcmd : IsCommand ([x.terminator].map Packet.bytes) := by
    simp [IsCommand, payloadLen_bytes, x.isEnd]
  have hbyte : getMySQLCommand (wire [x.terminator]) = (0, false) := by
    obtain ⟨l₀, l₁, l₂, hb⟩ := bytes_eq_cons x.terminator
    simp [wire, hb, x.isEnd, getMySQLCommand]
  have hno : isNoResponseCommand (getMySQLCommand (wire [x.terminator])).1 = false := by
    rw [hbyte]
    rfl
  obtain ⟨rest, hanswer⟩ := h.answer
  obtain ⟨r, client, hread⟩ := readMultiPacket_ready h.clientInv hcmd hready
  have hreads := readMultiPacketLoop_reads (available t.clientReader t.client + 1) t.clientReader
    t.client []
  rw [show readMultiPacketLoop _ _ t.client [] = _ from hread] at hreads
  obtain ⟨hunread, primary, hwrite, hsent, -, hpready⟩ := h.write (wire [x.terminator])
  have hbytes : wire [x.terminator] = x.terminator.bytes := by simp [wire]
  have hf : unread t.primaryReader ++ primary.ready = wire x.reply ++ rest := by
    rw [hunread, hpready, hbytes, List.nil_append]
    simpa [hx] using hanswer
  obtain ⟨r', primary', client', hresp, -, -, hout⟩ := readAndForwardResponse_reply x.isReply
    h.primaryInv (hreads.writable.trans h.clientWritable) hf
  have hreply : forwardReply (getMySQLCommand (wire [x.terminator])).1 t.primaryReader primary client =
      ⟨(wire x.reply).length, none, ((r', primary'), client')⟩ := by
    rw [hbyte]
    exact hresp
  rw [run_goes_on (turn_answered hread hwrite hno hreply), run]
  refine ⟨?_, by rw [hout, hreads.sent], ?_⟩
  · rw [(forwardReply_reads h.primaryInv hreply).sent, hsent, hx, hbytes]
    simp
  · obtain ⟨offers, hoffers⟩ := offer_grows filter sampledOut
      ⟨client, primary, r, t.primaryReader, t.offered⟩ (wire [x.terminator])
    exact ⟨offers, hoffers.symm, by simp [hx]⟩

lemma relays_request (filter : Option QueryFilter) (sampledOut : ℕ → Bool) {primary : Conn}
    (h : Asks s x.query primary [x.request] []) :
    Relays filter sampledOut s [x.request] [] := by
  apply (h.relays_iff (by rw [x.isQuery]; rfl) (by rw [x.isQuery]; rfl)).mpr
  exact Reply.consumesAll (.last (.localInfile x.isRequest))

lemma not_served_of_contents {primary : Conn} (h : Asks s x.query primary [x.request] [])
    (hup : Uploads x (turn filter sampledOut s).1) (hx : x.contents ≠ []) (n : ℕ) :
    ¬ Serves x (turn filter sampledOut s).1 (run filter sampledOut n s) := by
  obtain ⟨t, hturn, hclient, -⟩ := relays_request filter sampledOut h
  rw [hturn] at hup ⊢
  cases n with
  | zero =>
    intro hserves
    have hback := congrArg List.length hserves.2.1
    simp [run, hclient] at hback
  | succ n =>
    rw [run_goes_on hturn]
    exact hup.not_serves hx n

end Upload

/-- After the request for the file has been relayed, the file reaches the primary, the reply behind it
the client and no content packet the shadow if and only if the file is empty. -/
theorem local_infile_served_iff {filter : Option QueryFilter} {sampledOut : ℕ → Bool} {s : LoopState}
    {primary : Conn} (x : Infile) (h : Asks s x.query primary [x.request] [])
    (hup : Uploads x (turn filter sampledOut s).1) :
    (∃ n, Serves x (turn filter sampledOut s).1 (run filter sampledOut n s)) ↔ x.contents = [] := by
  constructor
  · rintro ⟨n, hserves⟩
    by_contra hx
    exact not_served_of_contents h hup hx n hserves
  · intro hx
    obtain ⟨t, hturn, -, -⟩ := relays_request filter sampledOut h
    rw [hturn] at hup ⊢
    exact ⟨2, by rw [run_goes_on hturn]; exact hup.serves_empty hx⟩

/-- `LOAD DATA` as a query, and the request for the file `f`. -/
def sampleLoad : Packet :=
  ⟨0, [comQuery, 0x4C, 0x4F, 0x41, 0x44, 0x20, 0x44, 0x41, 0x54, 0x41], by simp⟩

lemma sampleLoad_query : (getMySQLCommand (wire [sampleLoad])).1 = comQuery := by decide

def sampleRequest : Packet := ⟨1, [0xFB, 0x66], by simp⟩

def emptyPacket : Packet := ⟨9, [], by simp⟩

section Singles
variable {contents : List Packet} (h : ∀ p ∈ contents, p.payload ≠ [] ∧ p.payload.length < 0xFFFFFF)
include h

lemma singles_split : ∀ content ∈ contents.map fun p => [p], IsCommand (content.map Packet.bytes) := by
  intro content hc
  obtain ⟨p, hp, rfl⟩ := List.mem_map.mp hc
  simpa [IsCommand] using (h p hp).2

lemma singles_nonempty :
    ∀ content ∈ contents.map fun p => [p], (getMySQLCommand (wire content)).2 = true := by
  intro content hc
  obtain ⟨p, hp, rfl⟩ := List.mem_map.mp hc
  have hlen := List.length_pos_of_ne_nil (h p hp).1
  simp [getMySQLCommand, wire, show ¬ 4 + p.payload.length < 5 by omega]

end Singles

/-- The upload of a file with the given content packets, each of which is short. -/
def sampleInfile (contents : List Packet)
    (h : ∀ p ∈ contents, p.payload ≠ [] ∧ p.payload.length < 0xFFFFFF) : Infile where
  query := [sampleLoad]
  request := sampleRequest
  contents := contents.map fun p => [p]
  terminator := emptyPacket
  reply := [sampleOK]
  isQuery := sampleLoad_query
  isRequest := rfl
  isSplit := singles_split h
  nonempty := singles_nonempty h
  isEnd := rfl
  isReply := sampleOK_reply

section Sample
variable (contents : List Packet)
  (h : ∀ p ∈ contents, p.payload ≠ [] ∧ p.payload.length < 0xFFFFFF)

/-- The client sends the query and the file at once. The primary asks for the file and is silent until
it gets an empty packet. -/
def sampleUpload : LoopState :=
  .start (Conn.script [⟨wire [sampleLoad] ++ wire (contents ++ [emptyPacket]), none⟩])
    { Conn.script [] with
      respond := fun sent =>
        if sent.length = 1 then [⟨wire [sampleRequest] ++ [], none⟩]
        else if sent.length = contents.length + 2 then [⟨wire [sampleOK], none⟩]
        else [] }

lemma sampleUpload_asks :
    Asks (sampleUpload contents) [sampleLoad]
      ((sampleUpload contents).primary.write (wire [sampleLoad])).2 [sampleRequest] [] where
  clientInv := new_inv
  primaryInv := new_inv
  writable := rfl
  isCommand := by simp [IsCommand, sampleLoad]
  command := ⟨_, fresh_reader_ready _⟩
  write := rfl
  reply := fresh_reader_ready (wire [sampleRequest] ++ [])

lemma sampleUpload_uploads :
    Uploads (sampleInfile contents h) (turn none (fun _ => false) (sampleUpload contents)).1 := by
  have hload : wire [sampleLoad] = sampleLoad.bytes := by simp [wire]
  have hasks := sampleUpload_asks contents
  have hready : unread (sampleUpload contents).clientReader ++ (sampleUpload contents).client.ready =
      sampleLoad.bytes ++ wire (contents ++ [emptyPacket]) := by
    rw [← hload]
    apply fresh_reader_ready
  obtain ⟨r, client, hread, hi, hreads, hrest⟩ := readMultiPacket_single (by simp [sampleLoad])
    hasks.clientInv hready
  rw [← hload] at hread
  obtain ⟨r', primary', client', hresp, hinv, hidle, -⟩ := readAndForwardResponse_reply
    (.last (.localInfile (p := sampleRequest) rfl)) hasks.primaryInv
    (hreads.writable.trans hasks.writable) hasks.reply
  have hreply : forwardReply (getMySQLCommand (wire [sampleLoad])).1
      (sampleUpload contents).primaryReader
      ((sampleUpload contents).primary.write (wire [sampleLoad])).2 client =
        ⟨(wire [sampleRequest]).length, none, ((r', primary'), client')⟩ := by
    rw [sampleLoad_query, forwardReply, if_neg (by decide), hresp]
  have hprimary := forwardReply_reads hasks.primaryInv hreply
  have hquiet := (forwardReply_guarded (forwardRelay_quiet (d := client) (by rw [hreads.respond]; rfl))
    (getMySQLCommand (wire [sampleLoad])).1 (r := (sampleUpload contents).primaryReader)
    (p := ((sampleUpload contents).primary.write (wire [sampleLoad])).2)
    ⟨rfl, rfl, hreads.writable, by
      simp [sampleUpload, LoopState.start, Conn.write, Conn.Clean, Conn.script]⟩).2
  rw [hreply] at hquiet
  replace hquiet := hquiet rfl
  rw [turn_answered hread hasks.write (by rw [sampleLoad_query]; rfl) hreply]
  exact
    { clientInv := hi
      clientWritable := hquiet.writable
      primaryWritable := hprimary.writable
      file := ⟨[], by
        rw [Conn.ready, hquiet.pending, ← Conn.ready, hrest]
        simp [sampleInfile, ← List.flatMap_def]⟩
      primaryInv := hinv
      primaryClean := hquiet.clean
      idle := hidle
      silent := by
        intro sent hne hpre
        have hpos := List.length_pos_of_ne_nil hne
        have hle : sent.length ≤ contents.length := by simpa [sampleInfile] using hpre.length_le
        rw [hprimary.respond, hprimary.sent]
        simp [sampleUpload, LoopState.start, Conn.write, Conn.script, hne,
          show sent.length ≠ contents.length + 1 by omega]
      answer := by
        refine ⟨[], ?_⟩
        rw [hprimary.respond, hprimary.sent]
        simp [sampleUpload, LoopState.start, Conn.write, Conn.script, sampleInfile, readyBytes] }

end Sample

/-- An empty file. -/
theorem local_infile_served_emptyFile :
    ∃ n, Serves (sampleInfile [] (by simp)) (turn none (fun _ => false) (sampleUpload [])).1
      (run none (fun _ => false) n (sampleUpload [])) :=
  (local_infile_served_iff (sampleInfile [] (by simp)) (sampleUpload_asks [])
    (sampleUpload_uploads [] (by simp))).mpr rfl

/-- A file with the content `1`, for which the loop waits in vain for an answer. -/
theorem short_file_not_served :
    ∃ (x : Infile) (s : LoopState) (primary : Conn), x.contents.map wire = [[1, 0, 0, 2, 0x31]] ∧
      Asks s x.query primary [x.request] [] ∧ Uploads x (turn none (fun _ => false) s).1 ∧
      ∀ n, ¬ Serves x (turn none (fun _ => false) s).1 (run none (fun _ => false) n s) :=
  have h : ∀ p ∈ [(⟨2, [0x31], by simp⟩ : Packet)], p.payload ≠ [] ∧ p.payload.length < 0xFFFFFF := by
    simp
  ⟨sampleInfile _ h, sampleUpload _, _, rfl, sampleUpload_asks _, sampleUpload_uploads _ h,
    not_served_of_contents (x := sampleInfile _ h) (sampleUpload_asks _) (sampleUpload_uploads _ h)
      (by simp [sampleInfile])⟩

end ShadowProxy.MySQLLocalInfile
