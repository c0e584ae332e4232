import ShadowProxy.PgMirror

/-! A primary and a shadow that run the same extended-protocol session, the shadow only as much
of it as the proxy mirrors. Each backend is a map of prepared statements and a map of portals. -/
namespace ShadowProxy.PgSession
open WordBytes EventHistory PgProtocol ShadowFilter PgMirror

inductive Target
  | statement
  | portal
  deriving DecidableEq, Repr

def Target.kind : Target → UInt8
  | .statement => statementKind
  | .portal => portalKind

/-- `tail` is what the message carries beyond names and SQL text. -/
inductive Frame
  | parse (name sql : CString) (tail : Bytes)
  | bind (portal name : CString) (tail : Bytes)
  | describe (target : Target) (name : CString)
  | execute (portal : CString) (tail : Bytes)
  | close (target : Target) (name : CString)
  | sync
  deriving DecidableEq

def Frame.packet : Frame → PgPacket
  | .parse name sql tail => parseMessage name sql tail
  | .bind portal name tail => bindMessage name portal tail
  | .describe target name => targetMessage name pgMsgDescribe target.kind
  | .execute portal tail => executeMessage portal tail
  | .close target name => targetMessage name pgMsgClose target.kind
  | .sync => syncMessage

structure Backend where
  stmts : Bytes → Option Bytes
  portals : Bytes → Option Bytes

def Backend.empty : Backend := ⟨fun _ => none, fun _ => none⟩

def Backend.step (b : Backend) : Frame → Backend
  | .parse name sql _ => { b with stmts := Function.update b.stmts name.1 (some sql.1) }
  | .bind portal name _ => { b with portals := Function.update b.portals portal.1 (b.stmts name.1) }
  | .close .statement name => { b with stmts := Function.update b.stmts name.1 none }
  | .close .portal name => { b with portals := Function.update b.portals name.1 none }
  | .describe _ _ | .execute _ _ | .sync => b

/-- The two backends and the proxy's set of filtered names. -/
structure Mirrored where
  primary : Backend
  shadow : Backend
  sticky : StickyStmts

section Run
variable (filter : Option QueryFilter)

def Mirrored.step (s : Mirrored) (f : Frame) : Mirrored :=
  let decision := mirrorFrame filter s.sticky f.packet
  ⟨s.primary.step f, if decision.1.1 then s.shadow.step f else s.shadow, decision.2⟩

def session (frames : List Frame) : Mirrored :=
  frames.foldl (Mirrored.step filter) ⟨.empty, .empty, .empty⟩

/-- The frames the proxy keeps from the shadow, by the history alone: a Parse whose text the
filter rejects, and what refers to a named statement that was filtered and not closed since. -/
def HeldBack (before : List Frame) : Frame → Prop
  | .parse _ sql _ => (shouldShadowMirror sql.1 filter).1 = false
  | .bind _ name _ | .describe .statement name | .close .statement name =>
    name.1 ≠ [] ∧ Blocked filter name.1 (before.map Frame.packet)
  | .describe .portal _ | .close .portal _ | .execute _ _ | .sync => False

/-- The last frame of the kind `P` was kept from the shadow. -/
def LastHeldBack (P : Frame → Prop) (frames : List Frame) : Prop :=
  Since (fun before f => P f ∧ HeldBack filter before f) P frames

end Run

def SetsStmt (name : CString) : Frame → Prop
  | .parse n _ _ | .close .statement n => n = name
  | _ => False

def SetsPortal (portal : CString) : Frame → Prop
  | .bind q _ _ | .close .portal q => q = portal
  | _ => False

variable {filter : Option QueryFilter}

lemma session_concat (frames : List Frame) (f : Frame) :
    session filter (frames ++ [f]) = (session filter frames).step filter f := by
  simp [session]

lemma session_sticky (frames : List Frame) :
    (session filter frames).sticky = stickyAfter filter (frames.map Frame.packet) := by
  induction frames using List.reverseRecOn with
  | nil => rfl
  | append_singleton frames f ih =>
    rw [session_concat, List.map_append, List.map_singleton, stickyAfter_concat, ← ih]
    rfl

lemma mirrorFrame_parse (s : StickyStmts) (name sql : CString) (tail : Bytes) :
    (mirrorFrame filter s (Frame.parse name sql tail).packet).1 =
      shouldShadowMirror sql.1 filter := by
  rw [Frame.packet, mirrorFrame_of_ne_close _ (show pgMsgParse ≠ pgMsgClose by decide),
    shouldMirrorPgFrame_parse _ _ rfl, extractPgQueryText_parseMessage]

section Verdict
variable {before : List Frame} (hr : (session filter before).sticky.resets = 0)
include hr

lemma verdict_iff (name : Bytes) :
    ((session filter before).sticky.verdict name).1 = true ↔
      ¬ (name ≠ [] ∧ Blocked filter name (before.map Frame.packet)) := by
  by_cases hn : name = []
  · simp [StickyStmts.verdict, hn]
  · rw [session_sticky] at hr ⊢
    rw [← stickyAfter_mem hn hr, StickyStmts.verdict]
    split_ifs with h <;> simp [h]

lemma mirrored_iff (f : Frame) :
    (mirrorFrame filter (session filter before).sticky f.packet).1.1 = true ↔
      ¬ HeldBack filter before f := by
  cases f with
  | parse name sql tail => simp [mirrorFrame_parse, HeldBack]
  | bind portal name tail =>
    rw [Frame.packet, mirrorFrame_of_ne_close _ (show pgMsgBind ≠ pgMsgClose by decide),
      shouldMirrorPgFrame_bind _ _ rfl]
    simpa [HeldBack] using verdict_iff hr name.1
  | describe target name =>
    rw [Frame.packet, mirrorFrame_of_ne_close _ (show pgMsgDescribe ≠ pgMsgClose by decide),
      shouldMirrorPgFrame_describe _ _ rfl, extractPgDescribeTarget, extractTarget_targetMessage]
    cases target with
    | statement => exact verdict_iff hr name.1
    | portal => exact iff_of_true rfl id
  | execute portal tail => exact iff_of_true rfl id
  | close target name =>
    have ht : extractPgCloseTarget (targetMessage name pgMsgClose target.kind) =
      (target.kind, name.1) := extractTarget_targetMessage name pgMsgClose target.kind
    cases target with
    | statement =>
      rw [Frame.packet, mirrorFrame_close _ rfl (by rw [ht]; rfl), ht]
      exact verdict_iff hr name.1
    | portal =>
      rw [Frame.packet, mirrorFrame, shouldMirrorPgFrame_close _ _ rfl, ht]
      exact iff_of_true rfl id
  | sync => exact iff_of_true rfl id

end Verdict

lemma step_stmts_of_not_sets {name : CString} {f : Frame} (h : ¬ SetsStmt name f) (b : Backend) :
    (b.step f).stmts name.1 = b.stmts name.1 := by
  cases f with
  | parse n sql tail => exact Function.update_of_ne (fun he => h (Subtype.ext he.symm)) _ _
  | close target n =>
    cases target with
    | statement => exact Function.update_of_ne (fun he => h (Subtype.ext he.symm)) _ _
    | portal => rfl
  | bind | describe | execute | sync => rfl

lemma step_portals_of_not_sets {portal : CString} {f : Frame} (h : ¬ SetsPortal portal f)
    (b : Backend) : (b.step f).portals portal.1 = b.portals portal.1 := by
  cases f with
  | bind q n tail => exact Function.update_of_ne (fun he => h (Subtype.ext he.symm)) _ _
  | close target n =>
    cases target with
    | statement => rfl
    | portal => exact Function.update_of_ne (fun he => h (Subtype.ext he.symm)) _ _
  | parse | describe | execute | sync => rfl

lemma step_stmts_of_sets {name : CString} {f : Frame} (h : SetsStmt name f) (b b' : Backend) :
    (b.step f).stmts name.1 = (b'.step f).stmts name.1 := by
  cases f with
  | parse n sql tail =>
    obtain rfl : n = name := h
    simp [Backend.step]
  | close target n =>
    cases target with
    | statement =>
      obtain rfl : n = name := h
      simp [Backend.step]
    | portal => exact h.elim
  | bind | describe | execute | sync => exact h.elim

lemma session_resets_zero {a b : List Frame}
    (hr : (session filter (a ++ b)).sticky.resets = 0) :
    (session filter a).sticky.resets = 0 := by
  have hle := stickyAfter_resets_le filter (a.map Frame.packet) (b.map Frame.packet)
  rw [session_sticky, List.map_append] at hr
  rw [session_sticky]
  omega

/-- A slot on which the two backends agree after every frame that sets it on both: they agree on
it whenever the last frame that set it was mirrored. -/
lemma slot_agrees (read : Backend → Option Bytes) {P : Frame → Prop}
    (hframe : ∀ {f}, ¬ P f → ∀ b : Backend, read (b.step f) = read b) {frames : List Frame}
    (hset : EachStep (fun before f => P f → ¬ HeldBack filter before f →
      read ((session filter before).shadow.step f) = read ((session filter before).primary.step f))
      frames)
    (hr : (session filter frames).sticky.resets = 0) (hlast : ¬ LastHeldBack filter P frames) :
    read (session filter frames).shadow = read (session filter frames).primary := by
  induction frames using List.reverseRecOn with
  | nil => rfl
  | append_singleton frames f ih =>
    have hr' := session_resets_zero hr
    rw [eachStep_concat] at hset
    rw [LastHeldBack, since_concat] at hlast
    push Not at hlast
    rw [session_concat]
    by_cases hp : P f
    · have hm := hlast.1 hp
      simp only [Mirrored.step, (mirrored_iff hr' f).mpr hm, if_true]
      exact hset.2 hp hm
    · have hih := ih hset.1 hr' (fun h => hp (hlast.2 h))
      simp only [Mirrored.step, hframe hp]
      split_ifs
      · rw [hframe hp, hih]
      · exact hih

/-- What keeps the backends in step at a frame. A Bind that is mirrored names a statement whose
last Parse or Close was mirrored, and an Execute names a portal whose last Bind was mirrored. -/
def KeepsInStep (filter : Option QueryFilter) (before : List Frame) : Frame → Prop
  | .bind portal name tail =>
    HeldBack filter before (.bind portal name tail) ∨ ¬ LastHeldBack filter (SetsStmt name) before
  | .execute portal _ => ¬ LastHeldBack filter (SetsPortal portal) before
  | _ => True

/-- A frame that is mirrored reads the same SQL text on both backends. -/
def SameSQL (filter : Option QueryFilter) (before : List Frame) (f : Frame) : Prop :=
  let s := session filter before
  (mirrorFrame filter s.sticky f.packet).1.1 = true →
    match f with
    | .bind _ name _ => s.shadow.stmts name.1 = s.primary.stmts name.1
    | .execute portal _ => s.shadow.portals portal.1 = s.primary.portals portal.1
    | _ => True

/-- Every text the backend holds satisfies `P`. -/
def Backend.All (P : Bytes → Prop) (b : Backend) : Prop :=
  (∀ name sql, b.stmts name = some sql → P sql) ∧ ∀ portal sql, b.portals portal = some sql → P sql

lemma forall_update {P : Bytes → Prop} {m : Bytes → Option Bytes} {v : Option Bytes} (key : Bytes)
    (hm : ∀ k sql, m k = some sql → P sql) (hv : ∀ sql, v = some sql → P sql) :
    ∀ k sql, Function.update m key v k = some sql → P sql := by
  intro k sql h
  rw [Function.update_apply] at h
  split_ifs at h with hk
  · exact hv sql h
  · exact hm k sql h

lemma step_all {P : Bytes → Prop} {b : Backend} {f : Frame} (h : b.All P)
    (hf : ∀ name sql tail, f = .parse name sql tail → P sql.1) : (b.step f).All P := by
  obtain ⟨hs, hp⟩ := h
  cases f with
  | parse name sql tail =>
    refine ⟨forall_update name.1 hs ?_, hp⟩
    rintro _ ⟨⟩
    exact hf name sql tail rfl
  | bind portal name tail => exact ⟨hs, forall_update portal.1 hp (hs name.1)⟩
  | close target name =>
    cases target with
    | statement => exact ⟨forall_update name.1 hs (by simp), hp⟩
    | portal => exact ⟨hs, forall_update name.1 hp (by simp)⟩
  | describe | execute | sync => exact ⟨hs, hp⟩

/-- The shadow never holds a text that the filter rejects. -/
lemma shadow_allowed (frames : List Frame) :
    (session filter frames).shadow.All fun sql => (shouldShadowMirror sql filter).1 = true := by
  induction frames using List.reverseRecOn with
  | nil => exact ⟨by simp [session, Backend.empty], by simp [session, Backend.empty]⟩
  | append_singleton frames f ih =>
    rw [session_concat, Mirrored.step]
    split_ifs with hm
    · apply step_all ih
      rintro name sql tail rfl
      rwa [mirrorFrame_parse] at hm
    · exact ih

/-- An Execute that runs a rejected text on the primary is mirrored all the same, and runs
something else on the shadow. -/
theorem execute_of_rejected_differs (frames : List Frame) (portal : CString) (tail sql : Bytes)
    (hsql : (session filter frames).primary.portals portal.1 = some sql)
    (hrejected : (shouldShadowMirror sql filter).1 = false) :
    (mirrorFrame filter (session filter frames).sticky (Frame.execute portal tail).packet).1.1 =
      true ∧
    (session filter frames).shadow.portals portal.1 ≠
      (session filter frames).primary.portals portal.1 := by
  refine ⟨rfl, fun h => ?_⟩
  have hallowed := (shadow_allowed frames).2 portal.1 sql (h.trans hsql)
  simp [hrejected] at hallowed

section Agreement
variable {frames : List Frame} (hr : (session filter frames).sticky.resets = 0)
include hr

lemma stmts_agree {name : CString} (h : ¬ LastHeldBack filter (SetsStmt name) frames) :
    (session filter frames).shadow.stmts name.1 = (session filter frames).primary.stmts name.1 :=
  slot_agrees (fun b => b.stmts name.1) step_stmts_of_not_sets
    (fun _ _ _ _ hset _ => step_stmts_of_sets hset _ _) hr h

lemma portals_agree (hok : EachStep (KeepsInStep filter) frames) {portal : CString}
    (h : ¬ LastHeldBack filter (SetsPortal portal) frames) :
    (session filter frames).shadow.portals portal.1 =
      (session filter frames).primary.portals portal.1 := by
  refine slot_agrees (fun b => b.portals portal.1) step_portals_of_not_sets ?_ hr h
  intro a f b heq hset hmirrored
  have hra : (session filter a).sticky.resets = 0 := session_resets_zero (heq ▸ hr)
  have hstep := hok a f b heq
  cases f with
  | bind q name tail =>
    obtain rfl : q = portal := hset
    have hstmt : ¬ LastHeldBack filter (SetsStmt name) a := hstep.resolve_left hmirrored
    simp [Backend.step, stmts_agree hra hstmt]
  | close target q =>
    cases target with
    | statement => exact hset.elim
    | portal =>
      obtain rfl : q = portal := hset
      simp [Backend.step]
  | parse | describe | execute | sync => exact hset.elim

/-- In a session whose frames all keep the backends in step, every mirrored Execute runs on the
shadow the text it runs on the primary, and every mirrored Bind binds the same text. -/
theorem mirrored_frames_same_sql (hok : EachStep (KeepsInStep filter) frames) :
    EachStep (SameSQL filter) frames := by
  intro a f b heq
  have hra : (session filter a).sticky.resets = 0 := session_resets_zero (heq ▸ hr)
  have hoka : EachStep (KeepsInStep filter) a := EachStep.of_append (heq ▸ hok)
  have hstep := hok a f b heq
  intro hmirrored
  cases f with
  | bind portal name tail =>
    exact stmts_agree hra (hstep.resolve_left ((mirrored_iff hra _).mp hmirrored))
  | execute portal tail => exact portals_agree hra hoka hstep
  | parse | describe | close | sync => trivial

end Agreement

def sampleSession : List Frame :=
  [.parse unnamed publicText [], .bind unnamed unnamed [], .execute unnamed []]

/-- Behind it a named statement is prepared with a text that is filtered, and bound to a portal of its
own; the first portal is run again. -/
def filteredSession : List Frame :=
  sampleSession ++
    [.parse sampleName secretText [], .bind sampleName sampleName [], .execute unnamed []]

lemma sampleName_blocked :
    Blocked (some sampleFilter) sampleName.1
      ((sampleSession ++ [Frame.parse sampleName secretText []]).map Frame.packet) :=
  (stickyAfter_mem (by decide) (by decide)).mp (by decide)

theorem mirrored_frames_same_sql_filteredSession :
    HeldBack (some sampleFilter) sampleSession (.parse sampleName secretText []) ∧
      (session (some sampleFilter) filteredSession).shadow.stmts sampleName.1 = none ∧
      EachStep (SameSQL (some sampleFilter)) filteredSession := by
  have hpublic : (shouldShadowMirror publicText.1 (some sampleFilter)).1 = true := by decide
  have hsecret : (shouldShadowMirror secretText.1 (some sampleFilter)).1 = false := by decide
  have hne : sampleName ≠ unnamed := by decide
  have hempty : unnamed.1 = [] := rfl
  have hbind : HeldBack (some sampleFilter) (sampleSession ++ [.parse sampleName secretText []])
      (.bind sampleName sampleName []) := ⟨by decide, sampleName_blocked⟩
  refine ⟨hsecret, by decide, mirrored_frames_same_sql (by decide) ?_⟩
  change EachStep _ (((((([] ++ [_]) ++ [_]) ++ [_]) ++ [_]) ++ [_]) ++ [_])
  simp only [eachStep_concat, eachStep_nil, true_and]
  refine ⟨⟨⟨⟨⟨trivial, ?_⟩, ?_⟩, trivial⟩, .inl hbind⟩, ?_⟩
  all_goals simp only [KeepsInStep, LastHeldBack, since_concat, since_nil]
  all_goals simp [hpublic, HeldBack, SetsPortal, SetsStmt, hne, hempty]

/-- The unnamed statement is prepared anew with a text that is filtered, but the Bind and the
Execute after it are mirrored: the shadow runs the text before it. -/
theorem shadow_runs_older_sql :
    let s := session sampleFilter (sampleSession ++
      [.parse unnamed secretText [], .bind unnamed unnamed []])
    s.sticky.resets = 0 ∧
    (mirrorFrame sampleFilter s.sticky (Frame.execute unnamed []).packet).1 = (true, .none) ∧
    s.primary.portals [] = some secretText.1 ∧ s.shadow.portals [] = some publicText.1 := by
  decide

end ShadowProxy.PgSession
