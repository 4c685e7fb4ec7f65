import LiveChat.Proofs.Stream.Framing
import LiveChat.Rehearsal.Server

/-!
A body that comes over a feed while it is listened to. Whenever its parts arrive, and whenever the
line is asked, what is heard is what the whole body says, from its start, and an error stands behind
all payloads that were complete before it.
-/

set_option autoImplicit false

namespace LiveChat.Rehearsal

open LiveChat.Stream (Framer StreamError payloadsOf)

/-- How a body arrives, whether it breaks or not. -/
def arrivalsOf (body : Http.Body) : List Arrival :=
  body.parts.map .part ++ (if body.broken then [.failure Http.EventSource.broken] else [])

/-- What arrivals say to a framer. -/
def told (framer : Framer) : List Arrival → List (Except StreamError String)
  | [] => []
  | .part octets :: rest => (framer.feed octets).2.map .ok ++ told (framer.feed octets).1 rest
  | .payload text :: rest => .ok text :: told framer rest
  | .failure error :: rest => .error error :: told framer rest

/-- The framer behind them. -/
def fed (framer : Framer) : List Arrival → Framer
  | [] => framer
  | .part octets :: rest => fed (framer.feed octets).1 rest
  | .payload _ :: rest => fed framer rest
  | .failure _ :: rest => fed framer rest

theorem told_append (framer : Framer) (earlier later : List Arrival) :
    told framer (earlier ++ later) = told framer earlier ++ told (fed framer earlier) later := by
  induction earlier generalizing framer with
  | nil => rfl
  | cons arrival rest induction =>
      cases arrival <;> simp [told, fed, induction]

theorem fed_append (framer : Framer) (earlier later : List Arrival) :
    fed framer (earlier ++ later) = fed (fed framer earlier) later := by
  induction earlier generalizing framer with
  | nil => rfl
  | cons arrival rest induction =>
      cases arrival <;> simp [fed, induction]

theorem told_parts (framer : Framer) (parts : List (List UInt8)) :
    told framer (parts.map .part) = (framer.feed parts.flatten).2.map .ok := by
  induction parts generalizing framer with
  | nil => rfl
  | cons part parts induction =>
      rw [List.map_cons, told, induction, List.flatten_cons, Framer.feed_append, List.map_append]

theorem told_body (limit : Nat) (body : Http.Body) :
    told (.new limit) (arrivalsOf body) = Http.EventSource.items limit body := by
  unfold arrivalsOf Http.EventSource.items
  rw [told_append, told_parts]
  cases body.broken <;> rfl

/-- The framer takes arrivals up to the first that says something. -/
theorem frame_takes (framer : Framer) (arrivals : List Arrival) :
    ∃ taken, arrivals = taken ++ (Server.frame framer arrivals).2.2.2 ∧
      (Server.frame framer arrivals).1 = fed framer taken ∧
      told framer taken = (Server.frame framer arrivals).2.1.map .ok ++
        (Server.frame framer arrivals).2.2.1.toList.map .error ∧
      ((Server.frame framer arrivals).2.2.1 ≠ none → (Server.frame framer arrivals).2.1 = []) ∧
      (told framer taken = [] → (Server.frame framer arrivals).2.2.2 = []) := by
  induction arrivals generalizing framer with
  | nil => exact ⟨[], rfl, rfl, rfl, fun _ => rfl, fun _ => rfl⟩
  | cons arrival rest induction =>
      cases arrival with
      | payload text =>
          exact ⟨[.payload text], rfl, rfl, rfl, fun spoken => absurd rfl spoken,
            fun silent => nomatch silent⟩
      | failure error =>
          exact ⟨[.failure error], rfl, rfl, rfl, fun _ => rfl, fun silent => nomatch silent⟩
      | part octets =>
          unfold Server.frame
          cases completed : framer.feed octets with
          | mk next payloads =>
              cases payloads with
              | nil =>
                  obtain ⟨taken, whole, state, said, single, dry⟩ := induction next
                  refine ⟨.part octets :: taken, ?_, ?_, ?_, single, ?_⟩
                  · rw [List.cons_append, ← whole]
                  · rw [fed, completed]
                    exact state
                  · rw [told, completed]
                    exact said
                  · rw [told, completed]
                    exact dry
              | cons payload payloads =>
                  refine ⟨[.part octets], rfl, ?_, ?_, fun spoken => absurd rfl spoken, ?_⟩
                  · rw [fed, completed]
                    rfl
                  · rw [told, completed]
                    rfl
                  · intro silent
                    rw [told, completed] at silent
                    cases silent

/-- What is said by what is heard, if it is not the end. -/
def item? : Heard → Option (Except StreamError String)
  | .payload text => some (.ok text)
  | .signal (.failed error) =>
      if error = .broken closedText then none else some (.error error)
  | _ => none

/-- A line whose body comes over a feed. More arrives and the line is asked, in any order. -/
inductive Listened (limit place : Nat) :
    Line → Server → List Arrival → List Heard → Prop where
  | start {server : Server} {feed : Feed} (found : server.feeds[place]? = some feed) :
      Listened limit place (.body (.new limit) [] place) server feed.arrivals []
  | arrive {line : Line} {server after : Server} {arrived more : List Arrival}
      {heard : List Heard} {feed later : Feed}
      (before : Listened limit place line server arrived heard)
      (found : server.feeds[place]? = some feed) (grown : after.feeds[place]? = some later)
      (behind : later.arrivals = feed.arrivals ++ more) :
      Listened limit place line after (arrived ++ more) heard
  | ask {line : Line} {server : Server} {arrived : List Arrival} {heard : List Heard}
      (before : Listened limit place line server arrived heard) (now : Nat) :
      Listened limit place (server.hear now line).2.1 (server.hear now line).2.2 arrived
        (heard ++ [(server.hear now line).1])

/-- The line stands behind what was taken from the feed, and holds what is complete of it. -/
structure Abreast (limit place : Nat) (line : Line) (server : Server) (arrived : List Arrival)
    (heard : List Heard) (taken : List Arrival) (ready : List String) (feed : Feed) : Prop where
  line : line = .body (fed (.new limit) taken) ready place
  found : server.feeds[place]? = some feed
  whole : arrived = taken ++ feed.arrivals
  said : told (.new limit) taken = heard.filterMap item? ++ ready.map .ok

theorem found_modified {server : Server} {place : Nat} {feed : Feed} (change : Feed → Feed)
    (found : server.feeds[place]? = some feed) :
    (server.modifyFeed place change).feeds[place]? = some (change feed) := by
  simp [Server.modifyFeed, found]

/-- What an answer says is the next thing that is said. If it says nothing, all was heard. -/
theorem asked_abreast {limit place : Nat} {line : Line} {server : Server}
    {arrived taken : List Arrival} {heard : List Heard} {ready : List String} {feed : Feed}
    (abreast : Abreast limit place line server arrived heard taken ready feed) (now : Nat)
    (running : ∀ item ∈ told (.new limit) arrived, item ≠ .error (.broken closedText)) :
    (∃ taken ready feed, Abreast limit place (server.hear now line).2.1 (server.hear now line).2.2
        arrived (heard ++ [(server.hear now line).1]) taken ready feed) ∧
      (item? (server.hear now line).1 = none →
        told (.new limit) arrived = heard.filterMap item?) := by
  obtain ⟨rfl, found, whole, said⟩ := abreast
  cases ready with
  | cons payload ready =>
      refine ⟨⟨taken, ready, feed, rfl, found, whole, ?_⟩, fun quiet => nomatch quiet⟩
      rw [said]
      simp [Server.hear, item?]
  | nil =>
      -- Nothing is held, so the framer takes more of what is there.
      have present : server.feeds.getD place .new = feed := by simp [found]
      obtain ⟨next, rest, state, more, single, dry⟩ :=
        frame_takes (fed (.new limit) taken) feed.arrivals
      simp only [Server.hear, present]
      generalize Server.frame (fed (.new limit) taken) feed.arrivals = outcome at *
      obtain ⟨framer, payloads, error, arrivals⟩ := outcome
      simp only at rest state more single dry
      have located := found_modified (fun feed => { feed with arrivals }) found
      have split : arrived = (taken ++ next) ++ arrivals := by
        rw [whole, rest, List.append_assoc]
      have saidNext : told (.new limit) (taken ++ next) =
          heard.filterMap item? ++ (payloads.map .ok ++ error.toList.map .error) := by
        rw [told_append, said, more, List.map_nil, List.append_nil]
      have stands : framer = fed (.new limit) (taken ++ next) := by
        rw [fed_append, state]
      cases payloads with
      | cons payload ready =>
          cases error with
          | some error => cases single (fun silent => nomatch silent)
          | none =>
              refine ⟨⟨taken ++ next, ready, _, ?_, located, split, ?_⟩, fun quiet => nomatch quiet⟩
              · rw [stands]
              · rw [saidNext]
                simp [item?]
      | nil =>
          cases error with
          | some error =>
              have stays : error ≠ .broken closedText := by
                rintro rfl
                apply running (.error (.broken closedText)) _ rfl
                rw [split, told_append, saidNext]
                simp
              have item : item? (.signal (.failed error)) = some (.error error) := if_neg stays
              refine ⟨⟨taken ++ next, [], _, ?_, located, split, ?_⟩, ?_⟩
              · rw [stands]
              · rw [saidNext]
                simp [item]
              · intro quiet
                rw [item] at quiet
                cases quiet
          | none =>
              have quiet : item? (if feed.ended then Server.closed else .nothing) = none := by
                split <;> rfl
              refine ⟨⟨taken ++ next, [], _, ?_, located, split, ?_⟩, ?_⟩
              · rw [stands]
              · rw [saidNext]
                simp [quiet]
              · intro _
                rw [split, dry more, List.append_nil, saidNext]
                exact List.append_nil _

/-- While the body is open, what was heard and what is held are what was taken of it says. -/
theorem listened_abreast {limit place : Nat} {line : Line} {server : Server}
    {arrived : List Arrival} {heard : List Heard}
    (listened : Listened limit place line server arrived heard)
    (running : ∀ item ∈ told (.new limit) arrived, item ≠ .error (.broken closedText)) :
    ∃ taken ready feed, Abreast limit place line server arrived heard taken ready feed := by
  induction listened with
  | start found => exact ⟨[], [], _, rfl, found, rfl, rfl⟩
  | @arrive line server after arrived more heard feed later before found grown behind induction =>
      have sooner : ∀ item ∈ told (.new limit) arrived, item ≠ .error (.broken closedText) := by
        intro item member
        apply running
        rw [told_append]
        exact List.mem_append_left _ member
      obtain ⟨taken, ready, same, lined, present, whole, said⟩ := induction sooner
      obtain rfl : same = feed := Option.some.inj (present.symm.trans found)
      refine ⟨taken, ready, later, lined, grown, ?_, said⟩
      rw [whole, behind, List.append_assoc]
  | ask before now induction =>
      obtain ⟨taken, ready, feed, abreast⟩ := induction running
      exact (asked_abreast abreast now running).1

theorem items_end (limit : Nat) (body : Http.Body) :
    ∀ item ∈ Http.EventSource.items limit body, item ≠ .error (.broken closedText) := by
  rintro item member rfl
  unfold Http.EventSource.items at member
  rcases List.mem_append.mp member with payload | failure
  · obtain ⟨_, _, same⟩ := List.mem_map.mp payload
    cases same
  · have odd : StreamError.broken closedText = Http.EventSource.broken := by
      split at failure
      · simpa using failure
      · cases failure
    revert odd
    decide

/-- Wherever a body is cut, its events are those that it has as a whole. Read as a stream it gives
their payloads in order, and an error behind them if it breaks. This is what is heard on its line,
however much of it has arrived when it is asked; when it has nothing more to say, all was heard. -/
theorem body_read_whole (limit : Nat) (parts : List (List UInt8)) (broken : Bool) :
    ((Framer.new limit).feedParts parts).flatten = payloadsOf limit parts.flatten ∧
      Http.EventSource.items limit ⟨parts, broken⟩ =
        (payloadsOf limit parts.flatten).map .ok ++
          (if broken then [.error Http.EventSource.broken] else []) ∧
      ∀ (place : Nat) (line : Line) (server : Server) (arrived : List Arrival)
          (heard : List Heard),
        Listened limit place line server arrived heard →
        arrived <+: arrivalsOf ⟨parts, broken⟩ →
        heard.filterMap item? <+: Http.EventSource.items limit ⟨parts, broken⟩ ∧
          (arrived = arrivalsOf ⟨parts, broken⟩ →
            ∀ now, item? (server.hear now line).1 = none →
              heard.filterMap item? = Http.EventSource.items limit ⟨parts, broken⟩) := by
  refine ⟨?_, ?_, ?_⟩
  · rw [Framer.feed_parts_flatten, Stream.feed_whole]
  · rw [← Stream.feed_whole]
    rfl
  · intro place line server arrived heard listened start
    have ended := items_end limit ⟨parts, broken⟩
    obtain ⟨later, whole⟩ := start
    have saidWhole : told (.new limit) arrived ++ told (fed (.new limit) arrived) later =
        Http.EventSource.items limit ⟨parts, broken⟩ := by
      rw [← told_append, whole, told_body]
    have running : ∀ item ∈ told (.new limit) arrived, item ≠ .error (.broken closedText) := by
      intro item member
      apply ended
      rw [← saidWhole]
      exact List.mem_append_left _ member
    obtain ⟨taken, ready, feed, abreast⟩ := listened_abreast listened running
    constructor
    · rw [← saidWhole, abreast.whole, told_append, abreast.said]
      simp only [List.append_assoc]
      exact List.prefix_append _ _
    · rintro rfl now quiet
      rw [← told_body]
      exact ((asked_abreast abreast now running).2 quiet).symm

/-- A body that is cut within the name of a field, and breaks. -/
def splitBody : Http.Body := ⟨[[100, 97], [116, 97, 58, 97, 10, 10]], true⟩

/-- A server with one feed. -/
def feeding (arrivals : List Arrival) : Server :=
  { Server.new .plans with feeds := [{ arrivals, ended := false, released := false }] }

/-- The framer within the name. -/
def halfway : Framer :=
  { limit := 16, line := #[100, 97], filled := true, data := none, oversized := false }

theorem split_body_read_whole :
    ∃ (line : Line) (server : Server) (heard : List Heard),
      Listened 16 0 line server (arrivalsOf splitBody) heard ∧
        heard.filterMap item? = Http.EventSource.items 16 splitBody ∧
        Http.EventSource.items 16 splitBody = [.ok "a", .error Http.EventSource.broken] := by
  let rest := [Arrival.part [116, 97, 58, 97, 10, 10], .failure Http.EventSource.broken]
  have start : Listened 16 0 (.body (.new 16) [] 0) (feeding [.part [100, 97]])
    [.part [100, 97]] [] := @Listened.start _ _ _ ⟨[.part [100, 97]], false, false⟩ rfl
  have first : Listened 16 0 (.body halfway [] 0) (feeding []) [.part [100, 97]] [.nothing] :=
    .ask start 0
  have more : Listened 16 0 (.body halfway [] 0) (feeding rest) ([.part [100, 97]] ++ rest)
    [.nothing] :=
    @Listened.arrive _ _ _ _ _ _ _ _ ⟨[], false, false⟩ ⟨rest, false, false⟩ first rfl rfl rfl
  have completed : (feeding rest).hear 0 (.body halfway [] 0) =
      (.payload "a", .body (.new 16) [] 0, feeding [.failure Http.EventSource.broken]) := by
    have framed : halfway.feed [116, 97, 58, 97, 10, 10] = (.new 16, ["a"]) := by decide +kernel
    have framing : Server.frame halfway rest =
        (.new 16, ["a"], none, [.failure Http.EventSource.broken]) := by
      simp only [rest, Server.frame, framed]
    have waiting : (feeding rest).feeds.getD 0 .new = ⟨rest, false, false⟩ := rfl
    simp only [Server.hear, waiting, framing]
    rfl
  have second := Listened.ask more 0
  rw [completed] at second
  have last : Listened 16 0 (.body (.new 16) [] 0) (feeding []) (arrivalsOf splitBody)
    [.nothing, .payload "a", .signal (.failed Http.EventSource.broken)] := .ask second 0
  have whole := (body_read_whole 16 splitBody.parts true).2.2 0 _ _ _ _ last List.prefix_rfl
  refine ⟨_, _, _, last, whole.2 rfl 0 rfl, ?_⟩
  have read : (Framer.new 16).feed splitBody.parts.flatten = (.new 16, ["a"]) := by decide +kernel
  simp only [Http.EventSource.items, read]
  rfl

end LiveChat.Rehearsal
