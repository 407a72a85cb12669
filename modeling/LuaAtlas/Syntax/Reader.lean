/-
Reading a text with the automaton. A text that follows the grammar is read along one branch. Where it
does not, several repairs are followed at once: a token is supplied, tokens are skipped, or reading
goes back to a state that can take the next token. Branches that fare clearly worse than another are
dropped, and of the finished readings the one with the smallest penalty is the result.
-/
import LuaAtlas.Syntax.LongBracket
import LuaAtlas.Syntax.Stack

namespace LuaAtlas.Syntax

/-- A reading in progress. -/
structure Reader where
  stack : Stack
  /-- The level of the long bracket that was last seen on any branch. -/
  level : Nat := 0
  /-- The best reading that has come to the end of the text. -/
  finished? : Option Node := none
  /-- The number of readings that have come to the end of the text. -/
  finishes : Nat := 0
deriving Inhabited

namespace Reader

/-! ## Tokens -/

/-- What one look at the text gives: a token with the level behind it when it belongs to a long
text, or nothing. -/
abbrev Look := Except Lexeme.Stuck (Lexeme.Found × Option Nat)

/-- The token of a long text that may stand at `p` in state `mode`, and the level after looking. An
empty one that changes nothing is passed over while the text is at fault. -/
def lookLong (s : Stack) (v : Nat) (mode level : Nat) (p : Place) :
    Option (Lexeme.Found × Nat) × Nat :=
  let level := (s.branch v).level?.getD level
  match LongBracket.scan (Automaton.takes mode) level (Lexeme.afterMark p) with
  | none => (none, level)
  | some (found, after) =>
    let isIdle := found.stop.byte ≤ p.byte && (s.branch v).level? = some after
    if isIdle && (mode = Automaton.skipping || !s.hasAdvanced v) then (none, after)
    else (some (found, after), after)

/-- Looks for a token at `p` as state `mode` does. -/
def look (s : Stack) (v : Nat) (mode level : Nat) (p : Place) : Look × Nat :=
  match lookLong s v mode level p with
  | (some (found, after), level) => (.ok (found, some after), level)
  | (none, level) =>
    (((Lexeme.scan ((Automaton.row mode).mode?.getD .general) p).map (·, none)), level)

/-- Passes over characters that begin no token until some token is found. The first number bounds how
many there are. -/
def passOver (s : Stack) (v : Nat) : Nat → Nat → Place → Place × Nat
  | 0, level, p => (p, level)
  | n + 1, level, p =>
    match look s v Automaton.skipping level p with
    | (.ok _, level) => (p, level)
    | (.error stuck, level) =>
      let next := if stuck.stop.byte = p.byte then p.next else stuck.stop
      passOver s v n level next

/-- The next token of a branch, and the level after looking for it. A word is the keyword it spells
where the state can take that keyword. Where nothing fits that the state looks for, any token will
do, and characters that begin none are taken together. -/
def token (s : Stack) (v : Nat) (level : Nat) : Token × Nat :=
  let state := s.state v
  let before := s.place v
  let make (found : Lexeme.Found) (after? : Option Nat) : Token :=
    let terminal := if found.terminal = .name then
        match Terminal.keyword? (found.start.textTo found.stop) with
        | some k => if Automaton.takes state k then k else .name
        | none => .name
      else found.terminal
    { terminal? := some terminal, before := before, start := found.start, stop := found.stop
      level? := after?, changesLevel := after?.isSome && (s.branch v).level? ≠ after? }
  match look s v state level before with
  | (.ok (found, after?), level) => (make found after?, level)
  | (.error _, level) =>
    match look s v Automaton.skipping level before with
    | (.ok (found, after?), level) => (make found after?, level)
    | (.error stuck, level) =>
      let next := if stuck.stop.byte = stuck.start.byte then stuck.start.next else stuck.stop
      let (stop, level) := passOver s v before.rest.length level next
      ({ terminal? := none, before := before, start := stuck.start, stop := stop }, level)

/-! ## Putting nodes together -/

/-- How many branches are followed beyond one step. -/
def maxBranches : Nat := 6

/-- How many more there may be within a step. -/
def maxSurplus : Nat := 4

/-- The node that a rule makes of one of several readings of its parts, and the extra nodes behind
it. -/
def choose (head : Head) (place : Place) : List (List Node) → Node × List Node
  | [] => (.build head [] place, [])
  | first :: others =>
    let (parts, extras) := Node.splitExtras first
    others.foldl (fun (best, extras) other =>
      let (parts, more) := Node.splitExtras other
      let node := Node.build head parts place
      if best.prefersSecond node then (node, more) else (best, extras))
      (.build head parts place, extras)

/-- Applies a rule on a branch. Every vertex that its parts can begin at gives a branch of its own,
unless it can be joined to an older one. Gives the first new branch. -/
def reduce (s : Stack) (v rule : Nat) (isComment : Bool) : Stack × Option Nat :=
  let r := Rule.get rule
  let count := s.size
  let halted := (s.branches.filter (·.isHalted)).length
  let groups := s.under v r.size
  let s := groups.foldl (fun s (i, readings) =>
    let w := s.size
    if maxBranches + maxSurplus + halted < w then s
    else
      let b := s.branch v
      let (node, extras) := choose (.rule rule) (s.vertex i).place readings
      let state := (s.vertex i).state
      let next := Automaton.goto state r.makes
      let s := s.add ⟨i, .active, b.base, b.level?, none⟩
      let s := s.push w (some (node.setExtra (isComment && next = state))) next
      let s := s.pushAll w extras next
      match s.partner? w ((List.range w).filter (· ≠ v)) with
      | some u => s.join u w
      | none => s) s
  (s, if count < s.size then some count else none)

/-- Applies every rule that may be complete on a branch and on those that come of it, before the
terminal `t?` or before any. Tells whether `t?` can be taken by one of them. The first number bounds
the number of steps, the second counts those so far. -/
def reduceAll (t? : Option Terminal) (first count : Nat) : Nat → Nat → Nat → Bool → Stack → Stack × Bool
  | 0, _, _, canTake, s => (s, canTake)
  | n + 1, step, v, canTake, s =>
    if s.size ≤ v then (s, canTake)
    else
      match s.partner? v ((List.range v).drop count) with
      | some u => reduceAll t? first count n (step + 1) v canTake (s.join u v)
      | none =>
        let size := s.size
        let state := s.state v
        let rules : List Nat := match t? with
          | some t => (Automaton.reduction? state t).toList
          | none => Automaton.reductions state
        let takes := match t? with
          | some t => state = Automaton.skipping || (Automaton.shift? state t).isSome
          | none => (Automaton.row state).mode?.isSome
        let (s, made?) := (rules.filter fun rule => 0 < (Rule.get rule).size).foldl
          (fun (s, _) rule => reduce s v rule false) (s, none)
        let next := if v = first then size else v + 1
        if takes then reduceAll t? first count n (step + 1) next true s
        else
          match made? with
          | some w =>
            if step < maxBranches then reduceAll t? first count n (step + 1) v canTake (s.replace v w)
            else if t?.isSome then reduceAll t? first count n (step + 1) next canTake (s.remove v)
            else reduceAll t? first count n (step + 1) next canTake s
          | none =>
            if t?.isSome then reduceAll t? first count n (step + 1) next canTake (s.remove v)
            else reduceAll t? first count n (step + 1) next canTake s

/-! ## Comparing branches -/

/-- How a branch fares. -/
structure Standing where
  penalty : Nat
  progress : Nat
  isAtFault : Bool

/-- The standing of a branch. -/
def standing (s : Stack) (v : Nat) : Standing :=
  let isPaused := (s.branch v).isPaused
  ⟨s.penalty v + (if isPaused then Penalty.node else 0), s.progress v,
    isPaused || s.state v = Automaton.skipping⟩

/-- What to do with two branches. -/
inductive Verdict
  | takeFirst | preferFirst | neither | preferSecond | takeSecond
deriving DecidableEq, Repr

/-- By how much a penalty may exceed another, times the progress made since. -/
def maxLead : Nat := 18 * Penalty.node

/-- Compares how two branches fare. One that is at fault is dropped for one that is not, unless its
penalty is smaller; else a branch is dropped when its penalty is too much greater. -/
def compare (a b : Standing) : Verdict :=
  if !a.isAtFault && b.isAtFault then if a.penalty < b.penalty then .takeFirst else .preferFirst
  else if a.isAtFault && !b.isAtFault then if b.penalty < a.penalty then .takeSecond else .preferSecond
  else if a.penalty < b.penalty then
    if maxLead < (b.penalty - a.penalty) * (1 + a.progress) then .takeFirst else .preferFirst
  else if b.penalty < a.penalty then
    if maxLead < (a.penalty - b.penalty) * (1 + b.progress) then .takeSecond else .preferSecond
  else .neither

/-- Whether one of the given branches beats a branch `v` that stands as `own`. The branches that are
looked at are settled. -/
def isBeatenBy (own : Standing) (v : Nat) : List Nat → Stack → Bool × Stack
  | [], s => (false, s)
  | w :: ws, s =>
    if w = v || !(s.branch w).isActive || (s.place w).byte < (s.place v).byte then isBeatenBy own v ws s
    else
      let s := s.settle w
      match compare own (standing s w) with
      | .takeSecond => (true, s)
      | .preferSecond => if s.canJoin w v then (true, s) else isBeatenBy own v ws s
      | _ => isBeatenBy own v ws s

/-- Whether going on with branch `v` at the given penalty is pointless, since a finished reading or
another branch is better. -/
def isBeaten (finished? : Option Node) (v penalty : Nat) (s : Stack) : Bool × Stack :=
  if finished?.any (·.penalty ≤ penalty) then (true, s)
  else
    let s := s.settle v
    isBeatenBy ⟨penalty, s.progress v, false⟩ v (List.range s.size) s

/-! ## Repairs -/

/-- Ends a branch at the end of the text with the token `eof`: its nodes make a whole reading, which
is kept if it is the best so far. -/
def accept (r : Reader) (v : Nat) (eof : Token) : Reader :=
  let ⟨s, level, finished?, finishes⟩ := r
  let s := s.push v (some (.leaf eof true)) Automaton.beginning
  let roots := (s.readings v).map fun nodes =>
    let (before, after) := Node.splitExtras nodes
    match before.getLast? with
    | some (.tree h cs _ d) => Node.build h (before.dropLast ++ cs ++ after) d.start
    | some (.leaf t _) => Node.build .error (before ++ after) t.start
    | none => Node.build .error after eof.before
  let best? := roots.foldl (fun best? root =>
    match best? with
    | some best => if Node.prefersSecond best root then some root else some best
    | none => some root) finished?
  ⟨s.halt v, level, best?, finishes + roots.length⟩

/-- The error node on top of a branch, if there is one, and the branch without it. -/
def popError (s : Stack) (v : Nat) : Stack × List Node :=
  if (s.top v).links.any (·.node?.any (·.isError)) then
    let found := s.explore v (fun acc t =>
      match t.nodes with
      | [] => (acc, false)
      | n :: _ => (if acc.isNone && n.isError then some (t.vertex, n) else acc, true)) none
    match found with
    | some (i, n) => (s.setBranch v { s.branch v with vertex := i, status := .active }, n.children)
    | none => (s, [])
  else (s, [])

/-- Goes back to vertices in `state`, each given with the nodes above it on branch `v`, which become
an error node. There is a new branch for each vertex. -/
def goBack (v state : Nat) (targets : List (Nat × List (List Node))) (s : Stack) : Stack :=
  targets.foldl (fun s (i, readings) =>
    let w := s.size
    let b := s.branch v
    let s := s.add ⟨i, .active, b.base, b.level?, none⟩
    let (s, earlier) := popError s w
    let (parts, extras) := Node.splitExtras (earlier ++ readings.headD [])
    let s := if parts.isEmpty then s
      else
        let place := s.place w
        s.push w (some ((Node.build .error parts place).setExtra true)) state
    s.pushAll w extras state) s

/-- Looks for a state further down that can take the terminal `t` and goes back to it, unless that is
pointless. Tells whether it did. -/
def fallBack (finished? : Option Node) (v : Nat) (t : Terminal) (penalty progress : Nat) :
    List Fallback → Stack → Bool × Stack
  | [], s => (false, s)
  | f :: fs, s =>
    let place := s.place v
    if f.state = Automaton.skipping || f.place.byte = place.byte ||
        ((List.range s.size).any fun w => s.state w = f.state && (s.place w).byte = place.byte) then
      fallBack finished? v t penalty progress fs s
    else
      match isBeaten finished? v (penalty + f.depth * Penalty.node
        + (place.byte - f.place.byte) * Penalty.byte
        + (place.position.line - f.place.position.line) * Penalty.line) s with
      | (true, s) => (false, s)
      | (false, s) =>
        let depth := if progress = 0 then f.depth else f.depth + 1
        let targets := if Automaton.takes f.state t then
            (s.under v depth).filter fun (i, _) => (s.vertex i).state = f.state
          else []
        if targets.isEmpty then fallBack finished? v t penalty progress fs s
        else (true, goBack v f.state targets s)

/-- Skips a token on a branch, together with those that have been skipped before it. -/
def skip (s : Stack) (v progress : Nat) (t : Token) : Stack :=
  let node := Node.build .skipped [.leaf t false] t.before
  let (s, node) := if progress = 0 then (s, node)
    else
      match s.under v 1 with
      | (i, earlier :: _) :: _ =>
        let b := s.branch v
        (s.setBranch v { b with vertex := i, status := .active },
          Node.build .skipped (earlier ++ [node]) t.before)
      | _ => (s, node)
  let s := s.push v (some node) Automaton.skipping
  if t.level?.isSome then s.setBranch v { s.branch v with level? := t.level? } else s

/-- Deals with a token on a branch that skips text: goes back to a state that can take it, on a new
branch, and skips it on this one. At the end of the text everything becomes one error node. -/
def recover (r : Reader) (v : Nat) (t : Token) : Reader :=
  let ⟨s, level, finished?, finishes⟩ := r
  let s := s.settle v
  let progress := s.progress v
  let penalty := s.penalty v
  let (isBack, s) := match t.terminal?, (s.branch v).fallbacks? with
    | some terminal, some fallbacks => fallBack finished? v terminal penalty progress fallbacks s
    | _, _ => (false, s)
  if t.terminal? = some .eof then
    let place := s.place v
    let s := s.push v (some (.build .error [] place)) Automaton.beginning
    accept ⟨s, level, finished?, finishes⟩ v t
  else if isBack && (maxBranches < s.size || t.changesLevel) then
    ⟨s.halt v, level, finished?, finishes⟩
  else
    match isBeaten finished? v (penalty + Penalty.node + (t.stop.byte - t.before.byte) * Penalty.byte
      + (t.stop.position.line - t.before.position.line) * Penalty.line) s with
    | (true, s) => ⟨s.halt v, level, finished?, finishes⟩
    | (false, s) => ⟨skip s v progress t, level, finished?, finishes⟩

/-- A copy of a branch on which the terminal `t` has been supplied and every rule applied that the
lookahead allows, if the lookahead can then be taken. The copy and what comes of it are left behind
in any case. -/
def supply (s : Stack) (v : Nat) (t : Terminal) (state : Nat) (lookahead : Option Terminal)
    (limit : Nat) : Stack × Bool :=
  let w := s.size
  let place := s.place v
  let token : Token :=
    { terminal? := some t, before := place, start := place, stop := place, isSupplied := true }
  let s := (s.add { s.branch v with fallbacks? := none }).push w (some (.leaf token false)) state
  reduceAll lookahead w s.size limit 0 w false s

/-- Tries to supply each of the terminals in turn until the lookahead `t` can be taken. -/
def supplyAny (v : Nat) (t : Terminal) (limit : Nat) : List Terminal → Stack → Stack × Bool
  | [], s => (s, false)
  | m :: ms, s =>
    let state := s.state v
    let next := (Automaton.target? state m).getD Automaton.skipping
    if next = Automaton.skipping || next = state || (Automaton.reduction? next t).isNone then
      supplyAny v t limit ms s
    else
      let lookahead := if t = .eof then none else some t
      match supply s v m next lookahead limit with
      | (s, true) => (s, true)
      | (s, false) => supplyAny v t limit ms s

/-- On each of the given branches, tries to supply a token until that succeeds once, and breaks off
reading. -/
def breakOff (t? : Option Terminal) (limit : Nat) : List Nat → Bool → Stack → Stack
  | [], _, s => s
  | v :: vs, isSupplied, s =>
    let (s, isSupplied) := match isSupplied, t? with
      | false, some t => supplyAny v t limit Terminal.supplies s
      | _, _ => (s, isSupplied)
    breakOff t? limit vs isSupplied (s.push v none Automaton.skipping)

/-- Starts repairing on a branch that cannot go on with a token. -/
def repair (r : Reader) (v : Nat) (t : Token) (limit : Nat) : Reader :=
  let ⟨s, level, finished?, finishes⟩ := r
  let count := s.size
  let (s, _) := reduceAll none v count limit 0 v false s
  let made := s.size - count
  let s := breakOff t.terminal? limit (v :: (List.range made).map (· + count)) false s
  let s := made.repeat (fun s => if s.canJoin v count then s.join v count else s) s
  recover ⟨s.remember v, level, finished?, finishes⟩ v t

/-! ## Going on -/

/-- Takes a token on a branch. -/
def shift (s : Stack) (v : Nat) (t : Token) (state : Nat) : Stack :=
  let s := s.push v (some (.leaf t false)) state
  if t.level?.isSome then s.setBranch v { s.branch v with level? := t.level? } else s

/-- Stops a branch that cannot go on with the token `t`. -/
def pause (s : Stack) (v : Nat) (t : Token) : Stack :=
  let b := s.branch v
  let weight := (s.top v).weight
  s.setBranch v { b with status := .paused t, base := weight }

/-- Goes on with the token `t` on a branch: applies the rules that are complete before it and takes
it. A keyword that does not fit is taken as a name. The first number bounds the number of rules. -/
def proceed (v : Nat) : Nat → Reader → Token → Reader
  | 0, ⟨s, level, finished?, finishes⟩, _ => ⟨s.halt v, level, finished?, finishes⟩
  | n + 1, ⟨s, level, finished?, finishes⟩, t =>
    let state := s.state v
    if state = Automaton.skipping then recover ⟨s, level, finished?, finishes⟩ v t
    else
      match t.terminal? with
      | none => ⟨pause s v t, level, finished?, finishes⟩
      | some terminal =>
        match Automaton.reduction? state terminal, Automaton.shift? state terminal with
        | some rule, _ =>
          match reduce s v rule false with
          | (s, some w) => proceed v n ⟨s.replace v w, level, finished?, finishes⟩ t
          | (s, none) => ⟨s.halt v, level, finished?, finishes⟩
        | none, some next => ⟨shift s v t next, level, finished?, finishes⟩
        | none, none =>
          if state = Automaton.accepting && terminal = .eof then
            accept ⟨s, level, finished?, finishes⟩ v t
          else if (Terminal.keyword? (t.start.textTo t.stop)) = some terminal &&
              Automaton.takes state .name then
            proceed v n ⟨s, level, finished?, finishes⟩ { t with terminal? := some .name }
          else ⟨pause s v t, level, finished?, finishes⟩

/-- Goes on with the next token on a branch. -/
def next (v limit : Nat) (r : Reader) : Reader :=
  let ⟨s, level, finished?, finishes⟩ := r
  let (t, level) := token s v level
  proceed v limit ⟨s, level, finished?, finishes⟩ t

/-- Goes on with the next token on a branch; behind a comment the comment is put together first. -/
def advance (v limit : Nat) (r : Reader) : Reader :=
  match Automaton.finished? (r.stack.state v) with
  | some rule =>
    let ⟨s, level, finished?, finishes⟩ := r
    match reduce s v rule true with
    | (s, some w) => next v limit ⟨s.replace v w, level, finished?, finishes⟩
    | (s, none) => ⟨s.halt v, level, finished?, finishes⟩
  | none => next v limit r

/-- Goes on along a branch until it has come further than `last`. The first number bounds the number
of steps. -/
def follow (v limit : Nat) : Nat → Nat → Reader → Nat × Reader
  | 0, last, r => (last, r)
  | n + 1, last, r =>
    if (r.stack.branch v).isActive then
      let r := r.advance v limit
      let byte := (r.stack.place v).byte
      if last < byte || (0 < v && byte = last) then (byte, r) else follow v limit n last r
    else (last, r)

/-- Goes on along the branches from `v` on. -/
def followAll (limit : Nat) : Nat → Nat → Nat → Reader → Nat × Reader
  | 0, _, last, r => (last, r)
  | n + 1, v, last, r =>
    if v < r.stack.size then
      let (last, r) := follow v limit limit last r
      followAll limit n (v + 1) last r
    else (last, r)

/-- Compares branch `i` with those before it, from `j` on: drops the worse of two, joins what can be
joined and lets the better come first. Gives the index that branch `i` has at the end. -/
def rank : Nat → Nat → Nat → Standing → Stack → Stack × Nat
  | 0, i, _, _, s => (s, i)
  | n + 1, i, j, own, s =>
    if i ≤ j then (s, i + 1)
    else
      let s := s.settle j
      match compare (standing s j) own with
      | .takeFirst => (s.remove i, i)
      | .preferFirst | .neither =>
        if s.canJoin j i then (s.join j i, i) else rank n i (j + 1) own s
      | .preferSecond =>
        if s.canJoin j i then (s.join j i, i)
        else
          let a := s.branch i
          let b := s.branch j
          rank n i (j + 1) own ((s.setBranch i b).setBranch j a)
      | .takeSecond => rank n (i - 1) j own (s.remove j)

/-- Ranks all branches from `i` on and drops the halted ones. Gives the smallest penalty of a branch
that is not at fault. -/
def rankAll : Nat → Nat → Option Nat → Stack → Stack × Option Nat
  | 0, _, least?, s => (s, least?)
  | n + 1, i, least?, s =>
    if s.size ≤ i then (s, least?)
    else if (s.branch i).isHalted then rankAll n i least? (s.remove i)
    else
      let s := s.settle i
      let own := standing s i
      let least? := if own.isAtFault then least? else some (min (least?.getD own.penalty) own.penalty)
      let (s, i) := rank (s.size + 1) i 0 own s
      rankAll n i least? s

/-- Resumes the best branch if it is paused and drops the other paused ones. -/
def resume (limit : Nat) : Nat → Nat → Nat → Bool → Option Nat → Reader → Reader × Option Nat
  | 0, _, _, _, least?, r => (r, least?)
  | n + 1, i, count, isGoing, least?, r =>
    if count ≤ i then (r, least?)
    else
      let b := r.stack.branch i
      match b.status with
      | .paused t =>
        if !isGoing && r.finishes < maxBranches then
          let ⟨s, level, finished?, finishes⟩ := r
          let least? := some (s.penalty i)
          let s := s.setBranch i { b with status := .active }
          resume limit n (i + 1) count true least? (repair ⟨s, level, finished?, finishes⟩ i t limit)
        else
          let ⟨s, level, finished?, finishes⟩ := r
          resume limit n i (count - 1) isGoing least? ⟨s.remove i, level, finished?, finishes⟩
      | _ => resume limit n (i + 1) count true least? r

/-- Sorts the branches, drops those that are worse than others and starts repairs where no branch can
go on. Gives the smallest penalty of a branch that may still be followed. -/
def condense (limit : Nat) (r : Reader) : Reader × Option Nat :=
  let ⟨s, level, finished?, finishes⟩ := r
  let (s, least?) := rankAll limit 0 none s
  let s := { s with branches := s.branches.take maxBranches }
  let count := s.size
  resume limit limit 0 count false least? ⟨s, level, finished?, finishes⟩

/-- Reads to the end of the text. The first number bounds the number of steps. -/
def run (limit : Nat) : Nat → Nat → Reader → Option Node
  | 0, _, r => r.finished?
  | n + 1, last, r =>
    if r.stack.size = 0 then r.finished?
    else
      let (last, r) := followAll limit limit 0 last r
      let (r, least?) := condense limit r
      if r.finished?.any fun best => least?.all (best.penalty < ·) then r.finished?
      else run limit n last r

/-- More steps than reading a text of the given length takes. -/
def limit (length : Nat) : Nat := 64 * (length + 64)

end Reader

/-- The tree of a text. -/
def Node.ofText (source : String) : Option Node :=
  let place := Place.ofText source
  let limit := Reader.limit place.rest.length
  Reader.run limit limit 0 ⟨.ofPlace place, 0, none, 0⟩

end LuaAtlas.Syntax
