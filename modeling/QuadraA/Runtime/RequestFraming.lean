import Mathlib.Algebra.Order.Group.Multiset
import Mathlib.Tactic.Abel
import QuadraA.Lib.JsText
import QuadraA.Lib.JsonText

/-!
# Requests on a socket

`handleConnection` of `daemon-server.ts`: the daemon makes requests of the bytes of a socket, that
come in chunks.  Each chunk is made a text on its own and put behind what the chunks before it have
left; its whole lines are handled one after another, each with a wait for its answer, and then what
is left is tried as a request that has no end of line yet.

* `requests_framed` — of chunks that cut no character, exactly the requests are handed over;
* `request_altered` — a character that is cut is handed over as replacement characters.
-/

namespace QuadraA.Runtime

open QuadraA.Lib

/-! ### Lines -/

/-- `!text.trim()`. -/
def trimsToEmpty (text : List Char) : Bool := text.all fun c => jsWhitespace.contains c

/-- `split('\n')`, with what `pop` takes away apart. -/
def splitLines : List Char → List (List Char) × List Char
  | [] => ([], [])
  | c :: text =>
      if c = '\n' then ([] :: (splitLines text).1, (splitLines text).2)
      else
        match splitLines text with
        | ([], last) => ([], c :: last)
        | (line :: lines, last) => ((c :: line) :: lines, last)

/-- Lines, each with its end. -/
def joinLines (lines : List (List Char)) : List Char := lines.flatMap fun line => line ++ ['\n']

/-! ### The connection -/

/-- A listener that waits: for the answer to a line, with other lines behind it, or to what was
left. -/
inductive Listener where
  | line (rest : List (List Char))
  | remainder

/-- **The socket and its listeners**, with the requests that `handleRequest` was called with. -/
structure Connection where
  unread : List (List ℕ)
  buffer : List Char
  listeners : List Listener
  handed : List JsonTree

def Connection.opened (chunks : List (List ℕ)) : Connection := ⟨chunks, [], [], []⟩

/-- The buffer behind a turn, and the request that it has handed over, if any, with the wait. -/
abbrev TurnOutcome := List Char × Option (JsonTree × Listener)

/-- The request of a line; one that is blank, is not JSON or is `null` makes none. -/
def lineRequest (line : List Char) : Option JsonTree :=
  if trimsToEmpty line then none
  else
    match parseJson line with
    -- `request.command` throws
    | some .null => none
    | value => value

/-- What is left, tried as a request. -/
def takeRemainder (buffer : List Char) : TurnOutcome :=
  if trimsToEmpty buffer then (buffer, none)
  else
    match parseJson buffer with
    | none => (buffer, none)
    | some .null => ([], none)
    | some request => ([], some (request, .remainder))

/-- **What a listener does between two waits.** -/
def turn : List (List Char) → List Char → TurnOutcome
  | [], buffer => takeRemainder buffer
  | line :: lines, buffer =>
      match lineRequest line with
      | some request => (buffer, some (request, .line lines))
      | none => turn lines buffer

/-- The state behind a turn of a listener that stands between others. -/
def Connection.goOn (s : Connection) (before after : List Listener) (outcome : TurnOutcome) :
    Connection :=
  match outcome.2 with
  | none => { s with buffer := outcome.1, listeners := before ++ after }
  | some (request, listener) =>
      { s with
        buffer := outcome.1
        listeners := before ++ listener :: after
        handed := s.handed ++ [request] }

inductive ConnectionStep : Connection → Connection → Prop
  | data {s : Connection} {chunk : List ℕ} {unread : List (List ℕ)} :
      s.unread = chunk :: unread →
      ConnectionStep s (Connection.goOn { s with unread := unread } s.listeners []
        (turn (splitLines (s.buffer ++ decodeUtf8 chunk)).1
          (splitLines (s.buffer ++ decodeUtf8 chunk)).2))
  | answered {s : Connection} {before after : List Listener} {lines : List (List Char)} :
      s.listeners = before ++ .line lines :: after →
      ConnectionStep s (s.goOn before after (turn lines s.buffer))
  | ended {s : Connection} {before after : List Listener} :
      s.listeners = before ++ .remainder :: after →
      ConnectionStep s { s with listeners := before ++ after }

/-! ### Splitting -/

theorem joinLines_cons (line : List Char) (lines : List (List Char)) :
    joinLines (line :: lines) = line ++ '\n' :: joinLines lines := by
  rw [joinLines, List.flatMap_cons, List.append_assoc]
  rfl

/-- **A text is its lines and the rest**, and no line has an end inside. -/
theorem splitLines_spec (text : List Char) :
    text = joinLines (splitLines text).1 ++ (splitLines text).2 ∧
      (∀ line ∈ (splitLines text).1, '\n' ∉ line) ∧ '\n' ∉ (splitLines text).2 := by
  induction text with
  | nil =>
    refine ⟨rfl, fun line h => ?_, fun h => ?_⟩
    · cases h
    · cases h
  | cons c text ih =>
    obtain ⟨htext, hlines, hlast⟩ := ih
    rw [splitLines]
    by_cases hc : c = '\n'
    · rw [if_pos hc, joinLines_cons, hc]
      refine ⟨congrArg _ htext, List.forall_mem_cons.mpr ⟨fun h => ?_, hlines⟩, hlast⟩
      cases h
    · rw [if_neg hc]
      have hne : ∀ {l : List Char}, '\n' ∉ l → '\n' ∉ c :: l := by
        intro l hl hmem
        rcases List.mem_cons.mp hmem with heq | hmem
        · exact hc heq.symm
        · exact hl hmem
      cases hsplit : splitLines text with
      | mk lines last =>
        rw [hsplit] at htext hlines hlast
        cases lines with
        | nil =>
          refine ⟨congrArg _ htext, fun line h => ?_, hne hlast⟩
          cases h
        | cons line lines =>
          rw [List.forall_mem_cons] at hlines
          refine ⟨?_, List.forall_mem_cons.mpr ⟨hne hlines.1, hlines.2⟩, hlast⟩
          rw [joinLines_cons] at htext ⊢
          exact congrArg _ htext

/-- A line ends at its first end. -/
theorem line_inj {line line' rest rest' : List Char} (hline : '\n' ∉ line) (hline' : '\n' ∉ line')
    (h : line ++ '\n' :: rest = line' ++ '\n' :: rest') : line = line' ∧ rest = rest' := by
  have hwhile : ∀ {l : List Char} (r : List Char), '\n' ∉ l →
      (l ++ '\n' :: r).takeWhile (fun c => decide (c ≠ '\n')) = l := by
    intro l r hl
    have hall : ∀ c ∈ l, decide (c ≠ '\n') = true := by
      intro c hc
      rw [decide_eq_true_iff]
      rintro rfl
      exact hl hc
    rw [List.takeWhile_append_of_pos hall, List.takeWhile_cons_of_neg (by simp), List.append_nil]
  have hsame := congrArg (List.takeWhile fun c => decide (c ≠ '\n')) h
  rw [hwhile rest hline, hwhile rest' hline'] at hsame
  rw [hsame] at h
  exact ⟨hsame, (List.cons.inj (List.append_cancel_left h)).2⟩

/-- Lines without an end inside are those of the text that they begin. -/
theorem lines_of_join {lines lines' : List (List Char)} {rest : List Char}
    (hlines : ∀ line ∈ lines, '\n' ∉ line) (hlines' : ∀ line ∈ lines', '\n' ∉ line)
    (h : joinLines lines ++ rest = joinLines lines') :
    ∃ others, lines' = lines ++ others ∧ rest = joinLines others := by
  induction lines generalizing lines' with
  | nil => exact ⟨lines', rfl, h⟩
  | cons line lines ih =>
    rw [joinLines_cons, List.append_assoc, List.cons_append] at h
    cases lines' with
    | nil => cases (List.append_eq_nil_iff.mp h).2
    | cons line' lines' =>
      rw [joinLines_cons] at h
      rw [List.forall_mem_cons] at hlines hlines'
      obtain ⟨rfl, hrest⟩ := line_inj hlines.1 hlines'.1 h
      obtain ⟨others, rfl, hothers⟩ := ih hlines.2 hlines'.2 hrest
      exact ⟨others, rfl, hothers⟩

/-- A text without an end of line begins the first line. -/
theorem begins_line {text rest line : List Char} {lines : List (List Char)} (htext : '\n' ∉ text)
    (h : text ++ rest = joinLines (line :: lines)) :
    ∃ tail, line = text ++ tail ∧ rest = joinLines (tail :: lines) := by
  rw [joinLines_cons] at h
  rcases List.append_eq_append_iff.mp h with ⟨tail, hline, hrest⟩ | ⟨tail, hline, hrest⟩
  · exact ⟨tail, hline, hrest.trans (joinLines_cons tail lines).symm⟩
  · cases tail with
    | nil =>
      refine ⟨[], by rw [hline, List.append_nil, List.append_nil], ?_⟩
      rw [joinLines_cons]
      exact hrest.symm
    | cons c tail =>
      rw [← (List.cons.inj hrest).1] at hline
      rw [hline] at htext
      exact absurd (List.mem_append_right _ (List.mem_cons_self ..)) htext

/-! ### Requests -/

/-- **The text of a request**: a JSON object on one line. -/
structure RequestText where
  text : List Char
  members : List (List ℕ × JsonTree)
  parses : parseJson text = some (.object members)
  oneLine : '\n' ∉ text

def RequestText.request (r : RequestText) : JsonTree := .object r.members

/-- The bytes of requests, each with an end of line. -/
def requestBytes (requests : List RequestText) : List ℕ :=
  encodeUtf8 (joinLines (requests.map RequestText.text))

/-- A line of a socket: a request, or blanks. -/
structure IsLine (line : List Char) : Prop where
  oneLine : '\n' ∉ line
  request : (∀ c ∈ line, isBlank c = true) ∨ ∃ members, parseJson line = some (.object members)

theorem blank_of_isBlank {text : List Char} (h : ∀ c ∈ text, isBlank c = true) :
    trimsToEmpty text = true := by
  rw [trimsToEmpty, List.all_eq_true]
  intro c hc
  have hblank := h c hc
  simp only [isBlank, Bool.or_eq_true, decide_eq_true_eq] at hblank
  rcases hblank with ((rfl | rfl) | rfl) | rfl <;> rfl

/-- What is trimmed away is not JSON. -/
theorem parse_of_trims {text : List Char} (h : trimsToEmpty text = true) :
    parseJson text = none := by
  refine parse_blank fun c hc => ?_
  have hspace : (jsWhitespace.all fun c => isBlank c || (beginValue [] c).isNone) = true := by
    decide +kernel
  rw [trimsToEmpty, List.all_eq_true] at h
  have hblank := List.all_eq_true.mp hspace c (List.contains_iff_mem.mp (h c hc))
  exact (Bool.or_eq_true_iff.mp hblank).imp id Option.isNone_iff_eq_none.mp

theorem lineRequest_of_blank {line : List Char} (h : ∀ c ∈ line, isBlank c = true) :
    lineRequest line = none :=
  if_pos (blank_of_isBlank h)

theorem lineRequest_of_object {line : List Char} {members : List (List ℕ × JsonTree)}
    (h : parseJson line = some (.object members)) : lineRequest line = some (.object members) := by
  rw [lineRequest, if_neg, h]
  intro htrims
  rw [parse_of_trims htrims] at h
  cases h

/-- The requests of lines. -/
def lineRequests (lines : List (List Char)) : List JsonTree := lines.filterMap lineRequest

theorem lineRequests_append (lines lines' : List (List Char)) :
    lineRequests (lines ++ lines') = lineRequests lines ++ lineRequests lines' :=
  List.filterMap_append

/-- The requests that wait behind a listener. -/
def Listener.requests : Listener → List JsonTree
  | .line rest => lineRequests rest
  | .remainder => []

/-- The requests of an outcome: the one that is handed over, and those that wait behind it. -/
def outcomeRequests (outcome : TurnOutcome) : List JsonTree :=
  match outcome.2 with
  | none => []
  | some (request, listener) => request :: listener.requests

/-- **What is left of the text**: lines, of which the buffer has the beginning. -/
structure LeftOver (lines : List (List Char)) (buffer unread : List Char) : Prop where
  text : buffer ++ unread = joinLines lines
  oneLine : '\n' ∉ buffer
  lines : ∀ line ∈ lines, IsLine line

/-- **The remainder** that is taken is the first line. -/
theorem takeRemainder_spec {lines : List (List Char)} {buffer unread : List Char}
    (h : LeftOver lines buffer unread) :
    ∃ others, LeftOver others (takeRemainder buffer).1 unread ∧
      outcomeRequests (takeRemainder buffer) ++ lineRequests others = lineRequests lines := by
  rw [takeRemainder]
  cases htrims : trimsToEmpty buffer with
  | true => exact ⟨lines, h, rfl⟩
  | false =>
    rw [if_neg Bool.false_ne_true]
    cases lines with
    | nil =>
      rw [(List.append_eq_nil_iff.mp h.text).1] at htrims
      cases htrims
    | cons line rest =>
      obtain ⟨tail, rfl, hunread⟩ := begins_line h.oneLine h.text
      have hline := h.lines _ (List.mem_cons_self ..)
      rcases hline.request with hblank | ⟨members, hobject⟩
      · rw [blank_of_isBlank fun c hc => hblank c (List.mem_append_left _ hc)] at htrims
        cases htrims
      · cases hparse : parseJson buffer with
        | none => exact ⟨_, h, rfl⟩
        | some value =>
          -- the line is whole, but for blanks
          obtain ⟨rfl, hblank⟩ := parse_append hparse hobject
          refine ⟨tail :: rest, ⟨hunread, fun hmem => ?_, ?_⟩, ?_⟩
          · cases hmem
          · refine List.forall_mem_cons.mpr ⟨⟨fun hmem => ?_, Or.inl hblank⟩,
              fun line hmem => h.lines line (List.mem_cons_of_mem _ hmem)⟩
            exact hline.oneLine (List.mem_append_right _ hmem)
          · rw [lineRequests, List.filterMap_cons_none (lineRequest_of_blank hblank), lineRequests,
              List.filterMap_cons_some (lineRequest_of_object hobject)]
            rfl

/-- **A turn** hands over a request of its lines or of what is left, and loses none. -/
theorem turn_spec {lines : List (List Char)} {buffer unread : List Char}
    (h : LeftOver lines buffer unread) (pending : List (List Char)) :
    ∃ others, LeftOver others (turn pending buffer).1 unread ∧
      outcomeRequests (turn pending buffer) ++ lineRequests others
        = lineRequests pending ++ lineRequests lines := by
  induction pending with
  | nil => exact takeRemainder_spec h
  | cons line pending ih =>
    rw [turn]
    cases hrequest : lineRequest line with
    | none =>
      rw [lineRequests, List.filterMap_cons_none hrequest]
      exact ih
    | some request =>
      rw [lineRequests, List.filterMap_cons_some hrequest]
      exact ⟨lines, h, rfl⟩

/-- **A chunk** that cuts no character is split into lines and what is left. -/
theorem splitLines_leftOver {lines : List (List Char)} {buffer unread chunk : List Char}
    (h : LeftOver lines buffer (chunk ++ unread)) :
    ∃ others, LeftOver others (splitLines (buffer ++ chunk)).2 unread ∧
      lines = (splitLines (buffer ++ chunk)).1 ++ others := by
  obtain ⟨htext, hlines, hlast⟩ := splitLines_spec (buffer ++ chunk)
  have hjoin := h.text
  rw [← List.append_assoc, htext, List.append_assoc] at hjoin
  obtain ⟨others, hsplit, hothers⟩ :=
    lines_of_join hlines (fun line hmem => (h.lines line hmem).oneLine) hjoin
  refine ⟨others, ⟨hothers, hlast, fun line hmem => h.lines line ?_⟩, hsplit⟩
  rw [hsplit]
  exact List.mem_append_right _ hmem

/-! ### Runs -/

/-- **The invariant**: what was handed over, what waits in lines and what is left are the requests,
and no character of what is unread is cut. -/
structure Framed (requests : List JsonTree) (s : Connection) : Prop where
  framed : ∃ lines texts : List (List Char), s.unread = texts.map encodeUtf8 ∧
    LeftOver lines s.buffer texts.flatten ∧
    (s.handed ++ s.listeners.flatMap Listener.requests ++ lineRequests lines).Perm requests

/-- A turn of a listener that stands between others. -/
theorem Framed.goOn {requests : List JsonTree} {s : Connection} {before after : List Listener}
    {lines pending : List (List Char)} {texts : List (List Char)} {buffer : List Char}
    (hunread : s.unread = texts.map encodeUtf8) (hleft : LeftOver lines buffer texts.flatten)
    (hperm : (s.handed ++ (before ++ after).flatMap Listener.requests
      ++ (lineRequests pending ++ lineRequests lines)).Perm requests) :
    Framed requests (s.goOn before after (turn pending buffer)) := by
  obtain ⟨others, hothers, hsame⟩ := turn_spec hleft pending
  rw [← hsame] at hperm
  rw [Connection.goOn]
  rw [outcomeRequests] at hperm
  split
  · rename_i hnone
    rw [hnone] at hperm
    exact ⟨others, texts, hunread, hothers, hperm⟩
  · rename_i request listener hsome
    rw [hsome] at hperm
    refine ⟨others, texts, hunread, hothers, List.Perm.trans ?_ hperm⟩
    dsimp only
    rw [List.flatMap_append, List.flatMap_append, List.flatMap_cons,
      ← List.singleton_append (x := request) (l := listener.requests), ← Multiset.coe_eq_coe]
    simp only [← Multiset.coe_add]
    abel

theorem Framed.step {requests : List JsonTree} {s s' : Connection} (h : Framed requests s)
    (hstep : ConnectionStep s s') : Framed requests s' := by
  obtain ⟨lines, texts, hunread, hleft, hperm⟩ := h.framed
  cases hstep with
  | @data chunk unread hchunk =>
    rw [hchunk] at hunread
    cases texts with
    | nil => cases hunread
    | cons text texts =>
      obtain ⟨rfl, hrest⟩ := List.cons.inj hunread
      rw [decode_encode]
      obtain ⟨others, hothers, rfl⟩ := splitLines_leftOver hleft
      refine Framed.goOn hrest hothers ?_
      rwa [List.append_nil, ← lineRequests_append]
  | @answered before after pending hlisteners =>
    refine Framed.goOn hunread hleft (List.Perm.trans ?_ hperm)
    rw [hlisteners, List.flatMap_append, List.flatMap_append, List.flatMap_cons,
      ← Multiset.coe_eq_coe]
    simp only [← Multiset.coe_add]
    rw [Listener.requests]
    abel
  | @ended before after hlisteners =>
    refine ⟨lines, texts, hunread, hleft, ?_⟩
    rw [hlisteners, List.flatMap_append, List.flatMap_cons] at hperm
    rw [List.flatMap_append]
    exact hperm

/-- Chunks that cut no character are the bytes of texts. -/
theorem texts_of_whole {chunks : List (List ℕ)}
    (hwhole : ∀ chunk ∈ chunks, ∃ text, chunk = encodeUtf8 text) :
    ∃ texts : List (List Char), chunks = texts.map encodeUtf8 := by
  induction chunks with
  | nil => exact ⟨[], rfl⟩
  | cons chunk chunks ih =>
    rw [List.forall_mem_cons] at hwhole
    obtain ⟨⟨text, rfl⟩, hrest⟩ := hwhole
    obtain ⟨texts, rfl⟩ := ih hrest
    exact ⟨text :: texts, rfl⟩

theorem flatten_encodeUtf8 (texts : List (List Char)) :
    (texts.map encodeUtf8).flatten = encodeUtf8 texts.flatten := by
  induction texts with
  | nil => rfl
  | cons text texts ih =>
    rw [List.map_cons, List.flatten_cons, ih, List.flatten_cons, encodeUtf8_append]

theorem framed_opened {requests : List RequestText} {chunks : List (List ℕ)}
    (hchunks : chunks.flatten = requestBytes requests)
    (hwhole : ∀ chunk ∈ chunks, ∃ text, chunk = encodeUtf8 text) :
    Framed (requests.map RequestText.request) (.opened chunks) := by
  obtain ⟨texts, rfl⟩ := texts_of_whole hwhole
  rw [flatten_encodeUtf8] at hchunks
  refine ⟨requests.map RequestText.text, texts, rfl,
    ⟨encodeUtf8_injective hchunks, fun hmem => ?_, ?_⟩, ?_⟩
  · cases hmem
  · intro line hmem
    obtain ⟨r, _, rfl⟩ := List.mem_map.mp hmem
    exact ⟨r.oneLine, Or.inr ⟨_, r.parses⟩⟩
  · rw [lineRequests, List.filterMap_map]
    refine List.Perm.of_eq ?_
    show requests.filterMap (lineRequest ∘ RequestText.text) = _
    rw [← List.filterMap_eq_map]
    exact List.filterMap_congr fun r _ => lineRequest_of_object r.parses

/-! ### The end of a connection -/

/-- What a listener may still do. -/
def Listener.work : Listener → ℕ
  | .line rest => rest.length + 2
  | .remainder => 1

theorem turn_work (pending : List (List Char)) (buffer : List Char) {request : JsonTree}
    {listener : Listener} (h : (turn pending buffer).2 = some (request, listener)) :
    listener.work < pending.length + 2 := by
  induction pending with
  | nil =>
    rw [turn, takeRemainder] at h
    split at h
    · cases h
    · split at h
      · cases h
      · cases h
      · cases h
        exact Nat.lt_add_one 1
  | cons line pending ih =>
    rw [turn] at h
    split at h
    · cases h
      exact Nat.lt_add_one _
    · exact Nat.lt_succ_of_lt (ih h)

def Connection.work (s : Connection) : ℕ := (s.listeners.map Listener.work).sum

theorem work_goOn (s : Connection) (before after : List Listener) (pending : List (List Char))
    (buffer : List Char) :
    (s.goOn before after (turn pending buffer)).work
      < (before.map Listener.work).sum + (pending.length + 2) + (after.map Listener.work).sum := by
  rw [Connection.goOn, Connection.work]
  split
  · rw [List.map_append, List.sum_append]
    omega
  · rename_i request listener hsome
    have hwork := turn_work pending buffer hsome
    rw [List.map_append, List.map_cons, List.sum_append, List.sum_cons]
    omega

theorem unread_goOn (s : Connection) (before after : List Listener) (outcome : TurnOutcome) :
    (s.goOn before after outcome).unread = s.unread := by
  rw [Connection.goOn]
  split <;> rfl

/-- The listeners come to their end when their handlers answer. -/
theorem listeners_end (s : Connection) :
    ∃ s', Relation.ReflTransGen ConnectionStep s s' ∧ s'.unread = s.unread ∧ s'.listeners = [] := by
  generalize hwork : s.work = work
  induction work using Nat.strong_induction_on generalizing s with
  | _ work ih =>
    cases hlisteners : s.listeners with
    | nil => exact ⟨s, .refl, rfl, hlisteners⟩
    | cons listener after =>
      have hsum : s.work = listener.work + (after.map Listener.work).sum := by
        rw [Connection.work, hlisteners, List.map_cons, List.sum_cons]
      cases listener with
      | line pending =>
        have hstep := @ConnectionStep.answered s [] after pending hlisteners
        have hless := work_goOn s [] after pending s.buffer
        rw [List.map_nil, List.sum_nil, Nat.zero_add] at hless
        obtain ⟨s', hrun, hunread, hend⟩ :=
          ih (s.goOn [] after (turn pending s.buffer)).work
            (by
              rw [← hwork, hsum, Listener.work]
              exact hless) _ rfl
        exact ⟨s', .head hstep hrun, hunread.trans (unread_goOn ..), hend⟩
      | remainder =>
        have hstep := @ConnectionStep.ended s [] after hlisteners
        obtain ⟨s', hrun, hunread, hend⟩ :=
          ih (Connection.work { s with listeners := after })
            (by
              rw [← hwork, hsum, Connection.work, Listener.work]
              exact Nat.lt_add_of_pos_left Nat.one_pos) _ rfl
        exact ⟨s', .head hstep hrun, hunread, hend⟩

/-- **Every connection can come to its end**: all chunks are read, and nothing waits. -/
theorem connection_ends (s : Connection) :
    ∃ s', Relation.ReflTransGen ConnectionStep s s' ∧ s'.unread = [] ∧ s'.listeners = [] := by
  generalize hunread : s.unread = unread
  induction unread generalizing s with
  | nil =>
    obtain ⟨s', hrun, hsame, hend⟩ := listeners_end s
    exact ⟨s', hrun, hsame.trans hunread, hend⟩
  | cons chunk unread ih =>
    have hstep := ConnectionStep.data hunread
    obtain ⟨s', hrun, hread, hend⟩ := ih _ (unread_goOn { s with unread := unread } ..)
    exact ⟨s', .head hstep hrun, hread, hend⟩

/-- **Requests are framed**: of chunks that cut no character, no other request is handed over, and
at the end each one was, once. -/
theorem requests_framed (requests : List RequestText) (chunks : List (List ℕ)) (s : Connection)
    (hchunks : chunks.flatten = requestBytes requests)
    (hwhole : ∀ chunk ∈ chunks, ∃ text, chunk = encodeUtf8 text)
    (hrun : Relation.ReflTransGen ConnectionStep (.opened chunks) s) :
    s.handed.Subperm (requests.map RequestText.request) ∧
      (s.unread = [] → s.listeners = [] → s.handed.Perm (requests.map RequestText.request)) ∧
      ∃ s', Relation.ReflTransGen ConnectionStep s s' ∧ s'.unread = [] ∧ s'.listeners = [] := by
  have hframed : Framed (requests.map RequestText.request) s := by
    induction hrun with
    | refl => exact framed_opened hchunks hwhole
    | tail _ hstep ih => exact ih.step hstep
  obtain ⟨lines, texts, hunread, hleft, hperm⟩ := hframed.framed
  refine ⟨?_, fun hread hend => ?_, connection_ends s⟩
  · refine List.Subperm.trans (List.Sublist.subperm ?_) hperm.subperm
    exact (List.sublist_append_left _ _).trans (List.sublist_append_left _ _)
  · -- nothing is unread, so what is left is a text without an end of line
    have htexts : texts = [] := by
      rw [hread] at hunread
      exact List.map_eq_nil_iff.mp hunread.symm
    have hlines : lines = [] := by
      cases lines with
      | nil => rfl
      | cons line lines =>
        refine absurd ?_ hleft.oneLine
        have htext := hleft.text
        rw [htexts, List.flatten_nil, List.append_nil, joinLines_cons] at htext
        rw [htext]
        exact List.mem_append_right _ (List.mem_cons_self ..)
    rwa [hlines, hend, List.flatMap_nil, List.append_nil, lineRequests, List.filterMap_nil,
      List.append_nil] at hperm

/-! ### A character that is cut -/

/-- A request with a character of four bytes. -/
def sampleRequest : RequestText where
  text := "\x7b\"id\":\"😀\"\x7d".toList
  members := [([105, 100], .string [0xD83D, 0xDE00])]
  parses := rfl
  oneLine := by decide

/-- The text of the request in one chunk, and its end of line in another one. -/
def wholeChunks : List (List ℕ) := [encodeUtf8 sampleRequest.text, encodeUtf8 ['\n']]

theorem requests_framed_sample :
    ∃ s, Relation.ReflTransGen ConnectionStep (.opened wholeChunks) s ∧
      s.handed.Perm [sampleRequest.request] := by
  obtain ⟨s, hrun, hread, hend⟩ := connection_ends (.opened wholeChunks)
  have hframed := requests_framed [sampleRequest] wholeChunks s (by decide +kernel)
    (fun chunk hmem => by
      rcases List.mem_cons.mp hmem with rfl | hmem
      · exact ⟨_, rfl⟩
      · exact ⟨_, List.mem_singleton.mp hmem⟩) hrun
  exact ⟨s, hrun, hframed.2.1 hread hend⟩

def firstChunk : List ℕ := encodeUtf8 "\x7b\"id\":\"".toList ++ [0xF0, 0x9F]

def secondChunk : List ℕ := [0x98, 0x80] ++ encodeUtf8 "\"\x7d\n".toList

/-- The same bytes, cut inside the character. -/
def cutChunks : List (List ℕ) := [firstChunk, secondChunk]

/-- What is handed over of them. -/
def alteredRequest : JsonTree := .object [([105, 100], .string [0xFFFD, 0xFFFD, 0xFFFD])]

/-- **A request is altered**: each part of the character is decoded on its own. -/
theorem request_altered :
    cutChunks.flatten = requestBytes [sampleRequest] ∧
    ∃ s, Relation.ReflTransGen ConnectionStep (.opened cutChunks) s ∧
      s.unread = [] ∧ s.listeners = [] ∧ s.handed = [alteredRequest] ∧
      ¬s.handed.Perm [sampleRequest.request] := by
  refine ⟨by decide +kernel, ⟨[], [], [], [alteredRequest]⟩, ?_, rfl, rfl, rfl, fun hperm => ?_⟩
  · have hfirst : ConnectionStep (.opened cutChunks)
        ⟨[secondChunk], "\x7b\"id\":\"\ufffd".toList, [], []⟩ :=
      @ConnectionStep.data (.opened cutChunks) firstChunk [secondChunk] rfl
    have hsecond : ConnectionStep ⟨[secondChunk], "\x7b\"id\":\"\ufffd".toList, [], []⟩
        ⟨[], [], [.line []], [alteredRequest]⟩ :=
      @ConnectionStep.data ⟨[secondChunk], "\x7b\"id\":\"\ufffd".toList, [], []⟩ secondChunk []
        rfl
    have hthird : ConnectionStep ⟨[], [], [.line []], [alteredRequest]⟩
        ⟨[], [], [], [alteredRequest]⟩ :=
      @ConnectionStep.answered ⟨[], [], [.line []], [alteredRequest]⟩ [] [] [] rfl
    exact .head hfirst (.head hsecond (.single hthird))
  · have hsame := List.perm_singleton.mp hperm
    cases List.singleton_inj.mp hsame

end QuadraA.Runtime
