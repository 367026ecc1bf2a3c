import GraphLint.Proofs.Section.Before
import GraphLint.Proofs.Server.Publication
/-! # What a server offers at a cursor

A call for completion on a live connection is answered from the stored text alone, whoever has stored
it, in which language and under which URI, and with whatever settings (`Request.outcome_eq`).  Of the
text only what stands before the cursor counts.  So two calls, in two runs of two servers, get the
same reply wherever the texts agree before the cursor (`completion_looksBack`). -/
namespace GraphLint.Server
open Section

/-- A call for completion: the run before it, the live connection that sends it, and the document that
is stored under its URI then. -/
structure Request where
  arrivals : List Arrival
  files : Files.FileSystem
  connection : Nat
  uri : Uri
  document : Document
  live : IsLive (sentBy connection (arrivals.map Arrival.sent))
  stored : (runOver {} arrivals).documents.get? uri = some document

namespace Request

/-- The server that gets the call. -/
def server (r : Request) : Server := runOver {} r.arrivals

/-- What the call does, for a cursor at a position. -/
def outcome (r : Request) (p : Position) : Outcome :=
  r.server.step r.files r.connection (.call (.complete r.uri p))

/-- **A call for completion is answered from the text alone**, and does nothing else. -/
theorem outcome_eq (r : Request) (p : Position) :
    r.outcome p = ⟨r.server, .answer (.items (Completion.itemsAt r.document.text p)), []⟩ := by
  have hrunning : (r.server.connections r.connection).phase = .running :=
    phase_runOver_eq_running_iff.mpr r.live
  have hitems : r.server.completionItems r.uri p = Completion.itemsAt r.document.text p := by
    rw [completionItems, server, r.stored]
  unfold outcome step
  rw [hrunning, ← hitems]
  rfl

end Request

/-- The opening of a document. -/
def opening (files : Files.FileSystem) (j : Nat) (uri : Uri) (language text : Text) : Arrival :=
  ⟨files, j, .notice (.opened uri language text)⟩

section
variable {arrivals : List Arrival} {i j : Nat}

/-- A document that a live connection opens is stored. -/
theorem get?_runOver_opening (hj : IsLive (sentBy j (arrivals.map Arrival.sent)))
    (files : Files.FileSystem) (uri : Uri) (language text : Text) :
    (runOver {} (arrivals ++ [opening files j uri language text])).documents.get? uri =
      some ⟨uri.print, text, language⟩ := by
  have hne : Notice.opened uri language text ≠ .exit := nofun
  have hstep := step_notice_of_running files (runOver {} arrivals) j
    (phase_runOver_eq_running_iff.mpr hj) hne
  rw [runOver_concat, arrive, opening, hstep]
  exact Registry.get?_insert_self ..

/-- Whoever opens a document, connections that are live stay so. -/
theorem isLive_opening (hi : IsLive (sentBy i (arrivals.map Arrival.sent)))
    (files : Files.FileSystem) (uri : Uri) (language text : Text) :
    IsLive (sentBy i ((arrivals ++ [opening files j uri language text]).map Arrival.sent)) := by
  rw [List.map_append, sentBy, List.filter_append, List.map_append]
  refine hi.append fun m hm => ?_
  obtain ⟨sent, hsent, rfl⟩ := List.mem_map.mp hm
  rw [List.mem_singleton.mp (List.mem_filter.mp hsent).1]
  exact ⟨rfl, rfl⟩

/-- A call for completion on a document that a connection, the same or another one, has opened. -/
def Request.ofOpening (hi : IsLive (sentBy i (arrivals.map Arrival.sent)))
    (hj : IsLive (sentBy j (arrivals.map Arrival.sent))) (files : Files.FileSystem) (uri : Uri)
    (language text : Text) : Request where
  arrivals := arrivals ++ [opening files j uri language text]
  files := files
  connection := i
  uri := uri
  document := ⟨uri.print, text, language⟩
  live := isLive_opening hi files uri language text
  stored := get?_runOver_opening hj files uri language text

end

/-- What completion at a position makes of a text. -/
structure LooksBack (text : Text) (p : Position) : Prop where
  /-- Where another text agrees with it before the cursor, the section and the text before the cursor
  are the same, -/
  context_eq : ∀ other, text.AgreesBefore other p → contextAt other p = contextAt text p
  /-- and so are the entries. -/
  items_eq : ∀ other, text.AgreesBefore other p →
    Completion.itemsAt other p = Completion.itemsAt text p
  /-- On a line that has begun before the cursor, the text up to there is all that has to agree. -/
  context_eq_of_begun : ∀ other l k,
    (Text.lines text).take p.line.toNat = (Text.lines other).take p.line.toNat →
    (Text.lines text)[p.line.toNat]? = some l → (Text.lines other)[p.line.toNat]? = some k →
    l.take p.character.toNat = k.take p.character.toNat →
    Text.HasBegun (l.take p.character.toNat) → contextAt other p = contextAt text p
  /-- A call on a document with this text is answered with these entries, all of them and in this
  order. -/
  response_eq : ∀ r : Request, r.document.text = text → ∀ id,
    response? id (r.outcome p).reply =
      some (.object [("result", .array ((Completion.itemsAt text p).map ofItem)), ("id", id)])
  /-- It changes nothing, and nothing else is sent. -/
  outcome_eq : ∀ r : Request, r.document.text = text →
    r.outcome p = ⟨r.server, .answer (.items (Completion.itemsAt text p)), []⟩
  /-- Any other call on a document that agrees with it has the same reply. -/
  reply_eq : ∀ r other : Request, r.document.text = text →
    text.AgreesBefore other.document.text p → (other.outcome p).reply = (r.outcome p).reply
  /-- There are such calls: after any run, any live connection can ask about this text, which any
  live connection can store, under any URI and in any language. -/
  exists_request : ∀ (arrivals : List Arrival) (i j : Nat) (files : Files.FileSystem) (uri : Uri)
    (language : Text), IsLive (sentBy i (arrivals.map Arrival.sent)) →
      IsLive (sentBy j (arrivals.map Arrival.sent)) → ∃ r : Request, r.connection = i ∧
        r.arrivals = arrivals ++ [opening files j uri language text] ∧
          r.uri = uri ∧ r.document.text = text

/-- **Completion looks only at what precedes the cursor.** -/
theorem completion_looksBack (text : Text) (p : Position) : LooksBack text p where
  context_eq other h := (contextAt_eq_of_agreesBefore h).symm
  items_eq other h := (Completion.itemsAt_eq_of_agreesBefore h).symm
  context_eq_of_begun _ _ _ habove hl hk hbefore hbegun :=
    (contextAt_eq_of_agreesBefore (.of_begun habove hl hk hbefore hbegun)).symm
  response_eq := by
    rintro r rfl id
    rw [r.outcome_eq]
    rfl
  outcome_eq := by
    rintro r rfl
    exact r.outcome_eq p
  reply_eq := by
    rintro r other rfl h
    rw [r.outcome_eq, other.outcome_eq, Completion.itemsAt_eq_of_agreesBefore h]
  exists_request arrivals i j files uri language hi hj :=
    ⟨.ofOpening hi hj files uri language text, rfl, rfl, rfl, rfl⟩

end GraphLint.Server
