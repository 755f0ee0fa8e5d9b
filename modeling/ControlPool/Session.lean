import ControlPool.Extraction
import ControlPool.Pool.Run
import ControlPool.Store

/-!
# Sessions

A session drives one pool together with its collaborators: a chain head and role holders that are
set by hand, a recovery that the pool shares with extraction, and a state store. It remembers what
the last drain handed out and the last state that was extracted, so that the one can be put into a
block and the other be committed.
-/

namespace ControlPool

/-- A pool and its collaborators, with the transactions of the last drain, sender by sender, and the
state that was extracted last. -/
structure Session (ρ : Type) where
  pool : Pool ρ
  head : Head
  headOutage : Option String
  roles : RoleTable
  store : Store
  drained : List Transaction
  extracted : Option StateMap

namespace Session

variable {ρ : Type}

/-- What the pool finds around it. -/
def surroundingsOf (head : Head) (headOutage : Option String) (roles : RoleTable) :
    Surroundings where
  head := match headOutage with
    | some text => .error text
    | none => .ok head
  roles := roles.oracle

/-- A session in which nothing has happened. -/
def new (config : Config) (head : Head) (roles : RoleTable) (recovery : ρ) : Session ρ where
  pool := .new config (surroundingsOf head none roles) recovery
  head
  headOutage := none
  roles
  store := .empty
  drained := []
  extracted := none

/-- A step of a session. A block without transactions of its own holds those of the last drain, and
the state that was extracted last is committed. -/
inductive Step (ρ : Type) where
  | insert (tx : Transaction)
  | handle (message : PeerMessage)
  | drain
  | info
  | readHead
  | setHead (head : Head)
  | setHeadOutage (text : Option String)
  | setRoleFault (role : Role) (text : Option String)
  | addMember (role : Role) (address : Address)
  | removeMember (role : Role) (address : Address)
  | changeRecovery (change : ρ → ρ)
  | extract (header : BlockHeader) (transactions : Option (List Transaction))
  | commit (root : Hash)
  | put (root : Hash) (key : String) (value : List UInt8)
  | lookup (root : Hash) (kind : Kind)

/-- The answer to a step, if it asks for one. -/
inductive Answer where
  | pool (answer : Pool.Answer)
  | info (settings : Settings)
  | head (reading : Except PoolError Head)
  | extraction (result : Except PoolError Extraction)
  | bucket (result : Except PoolError Bucket)
  | nothingToCommit
  | done

/-- What an extraction adds to the counters: the size of each bucket. -/
def extractionTally : Except PoolError Extraction → Tally
  | .ok (.found data) =>
    Kind.all.foldl (fun tally kind =>
      tally + .single (.extracted kind) (StateMap.bucketSize data.state kind)) .zero
  | _ => .zero

variable [SignerRecovery ρ]

/-- Lets the pool take a step. -/
def stepPool (session : Session ρ) (step : Pool.Step ρ) : Answer × Session ρ :=
  let (answer, pool) := session.pool.step step
  (.pool answer, { session with pool })

/-- Lets the pool see the head and the roles as they are now. -/
def refresh (session : Session ρ) : Answer × Session ρ :=
  let surroundings := surroundingsOf session.head session.headOutage session.roles
  (.done, (session.stepPool (.surround surroundings)).2)

/-- Hands the pending transactions out and remembers them. -/
def drain (session : Session ρ) : Answer × Session ρ :=
  let (groups, pool) := session.pool.drain
  (.pool (.drained groups),
    { session with pool, drained := groups.entries.flatMap fun group => group.2 })

/-- Extracts a block with the recovery that the pool uses, and remembers the state. -/
def extract (session : Session ρ) (block : Block) : Answer × Session ρ :=
  let (result, recovery) := block.extract session.pool.config.schedule session.pool.recovery
  let extracted := match result with
    | .ok (.found data) => some data.state
    | _ => session.extracted
  let tally := session.pool.tally + extractionTally result
  (.extraction result, { session with pool := { session.pool with recovery, tally }, extracted })

/-- Takes one step. -/
def step (session : Session ρ) : Step ρ → Answer × Session ρ
  | .insert tx => session.stepPool (.insert tx)
  | .handle message => session.stepPool (.handle message)
  | .drain => session.drain
  | .info => (.info session.pool.config.toSettings, session)
  | .readHead =>
    (.head (match session.headOutage with
      | some text => .error (.headUnavailable text)
      | none => .ok session.head), session)
  | .setHead head => refresh { session with head }
  | .setHeadOutage text => refresh { session with headOutage := text }
  | .setRoleFault role text => refresh { session with roles := session.roles.setFault role text }
  | .addMember role address =>
    refresh { session with roles := session.roles.addMember role address }
  | .removeMember role address =>
    refresh { session with roles := session.roles.removeMember role address }
  | .changeRecovery change => (.done, (session.stepPool (.recovery change)).2)
  | .extract header transactions =>
    session.extract ⟨header, transactions.getD session.drained⟩
  | .commit root =>
    match session.extracted with
    | some state =>
      (.done, { session with store := session.store.put root Store.controlKey state.encode })
    | none => (.nothingToCommit, session)
  | .put root key value => (.done, { session with store := session.store.put root key value })
  | .lookup root kind => (.bucket (session.store.lookup root kind), session)

/-- Takes steps one after the other; each answer stands with the number pending after it. -/
def run (session : Session ρ) : List (Step ρ) → List (Answer × Nat) × Session ρ
  | [] => ([], session)
  | s :: steps =>
    let (answer, session) := session.step s
    let (answers, last) := run session steps
    ((answer, session.pool.pending) :: answers, last)

end Session

end ControlPool
