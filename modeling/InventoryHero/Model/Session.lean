import InventoryHero.Model.Database
import InventoryHero.Interaction.Program

/-!
# Requests, sessions and the meaning of database operations

Each request is served by a program over the operations `Op`. Its local state, the `Exchange`,
holds the MongoDB session, the responses sent so far and the external circumstances of the request.
The shared state `Db` holds the committed store.

Sessions follow MongoDB's snapshot isolation. The first in-session operation of a transaction fixes
its snapshot; in-session operations see the snapshot and the transaction's own writes; the writes
take effect together at the commit. The commit is refused when another transaction has committed a
write to one of the same documents since the snapshot. Operations issued without the session see
and change the committed store directly.
-/

set_option autoImplicit false

namespace InventoryHero.Model

open Interaction

/-! ## Responses -/

/-- Errors a handler can throw. -/
inductive JsError
  /-- `new Exception(message, status)`. -/
  | exception (message : String) (status : Nat)
  /-- A property of `null` or `undefined` was read. -/
  | typeError
  | mongo (e : MongoError)
  /-- A second response was sent. -/
  | headersSent
  | cloudinary
  deriving DecidableEq, Repr

/-- `error.name`, where the driver and the runtime set it. -/
def JsError.name : JsError → String
  | exception _ _ => "Error"
  | typeError => "TypeError"
  | mongo .validation => "ValidationError"
  | mongo .cast => "CastError"
  | mongo .documentNotFound => "DocumentNotFoundError"
  | mongo _ => "MongoServerError"
  | headersSent => "Error"
  | cloudinary => "Error"

/-- `error.code`. -/
def JsError.code : JsError → Option Nat
  | mongo .duplicateKey => some 11000
  | _ => none

/-- `error.status`, which only an `Exception` has. -/
def JsError.status : JsError → Option Nat
  | exception _ status => some status
  | _ => none

/-- Pieces of a template string. -/
inductive Fragment
  | str (s : String)
  | num (n : JsNumber)
  deriving DecidableEq, Repr

/-- The `data` argument of `Msg`. -/
inductive Payload
  | text (s : String)
  /-- `{ name: text }`. -/
  | field (name : String) (text : String)
  /-- `{ product, inventory }`. -/
  | added (product : Product) (inventory : Inventory)
  /-- `{ result }`. -/
  | sale (result : SalesData)
  /-- `{ products }`. -/
  | products (result : Option Product)
  deriving DecidableEq, Repr

inductive Body
  /-- `res.send(text)`. -/
  | text (fragments : List Fragment)
  /-- `res.json({ field: text })`. -/
  | json (field : String) (text : String)
  /-- `res.send({ Inventory, product })`. -/
  | inventory (inventory : Inventory) (product : Product)
  /-- `Msg(res, data, message, statusCode)`. -/
  | envelope (data : Payload) (message : Fragment)
  /-- An error forwarded with `next`, answered by the error handler of `index.js`. -/
  | error (e : JsError)
  deriving DecidableEq, Repr

structure Response where
  status : Nat
  body : Body
  deriving DecidableEq, Repr

/-- `res.status(status).send(text)`. -/
def Response.text (status : Nat) (text : String) : Response := ⟨status, .text [.str text]⟩

/-- `utils/resMsg.js`. -/
def Msg (data : Payload) (message : Fragment) (statusCode : Nat) : Response :=
  ⟨statusCode, .envelope data message⟩

/-- The default `message` of `Msg`. -/
def requestSuccessful : Fragment := .str "request successful"

/-- `next(new Exception(error.message, error.status))`. -/
def Response.next (e : JsError) : Response := ⟨e.status.getD 500, .error e⟩

/-! ## State -/

/-- The committed store, the next document id, and for each commit the documents it wrote. -/
structure Db where
  store : Store
  nextId : ObjectId
  oplog : List (List DocKey)

/-- An open transaction. `snapshot` is `none` before its first in-session operation; then it holds
the length of the commit log and the committed store at that operation. -/
structure Txn where
  snapshot : Option (Nat × Store)
  writes : Writes

/-- State of the session of a request. A committed session remembers what it wrote. -/
inductive Session
  | idle
  | inProgress (t : Txn)
  | committed (w : Writes)
  | aborted

/-- External circumstances of a request: the time, whether the commit fails for a reason outside
this program, and which calls to Cloudinary fail, counted from `0`. -/
structure Env where
  now : Date
  commitFails : Bool
  destroyFails : Nat → Bool

/-- Local state of the request being served. `destroyed` lists the calls to Cloudinary that
succeeded. `reads` records the reads issued and the store each one saw; nothing depends on it but
statements about interleavings. -/
structure Exchange where
  env : Env
  session : Session
  sent : List Response
  destroyCalls : Nat
  destroyed : List (Option String)
  reads : List (Query × Store)

/-- A request that has just arrived. -/
def Exchange.init (env : Env) : Exchange where
  env := env
  session := .idle
  sent := []
  destroyCalls := 0
  destroyed := []
  reads := []

namespace Txn

/-- The snapshot the transaction works on once it has issued an in-session operation. -/
def begin (t : Txn) (db : Db) : Nat × Store := t.snapshot.getD (db.oplog.length, db.store)

/-- The transaction after an operation that was refused with `e`. An operation that Mongoose refuses
itself is not sent, and does not fix the snapshot. -/
def refuse (t : Txn) (e : MongoError) (db : Db) : Txn :=
  if e.isLocal then t else ⟨some (t.begin db), t.writes⟩

theorem refuse_cases (t : Txn) (e : MongoError) (db : Db) :
    t.refuse e db = t ∨ t.refuse e db = ⟨some (t.begin db), t.writes⟩ := by
  unfold refuse
  split
  · exact .inl rfl
  · exact .inr rfl

@[simp] theorem writes_refuse (t : Txn) (e : MongoError) (db : Db) :
    (t.refuse e db).writes = t.writes := by
  rcases t.refuse_cases e db with h | h <;> rw [h]

/-- What in-session operations see. -/
def view (t : Txn) (db : Db) : Store := (t.begin db).2.apply t.writes

/-- Another transaction has committed a write to a document of this one since its snapshot. -/
def conflicts (t : Txn) (db : Db) : Bool :=
  (db.oplog.drop (t.begin db).1).any fun keys => keys.any fun k => k ∈ t.writes.keys

end Txn

/-! ## Operations -/

/-- What a handler can do, one step at a time. -/
inductive Op
  | read (q : Query)
  | newId
  | now
  | startTransaction
  | inSession (c : Command)
  | direct (c : Command)
  | commitTransaction
  | abortTransaction
  | send (r : Response)
  | destroy (cloudId : Option String)

@[reducible] def Op.Reply : Op → Type
  | .read q => q.Result
  | .newId => ObjectId
  | .now => Date
  | .startTransaction => Unit
  | .inSession c => Except MongoError c.Result
  | .direct c => Except MongoError c.Result
  | .commitTransaction => Except MongoError Unit
  | .abortTransaction => Except MongoError Unit
  | .send _ => Except JsError Unit
  | .destroy _ => Except JsError Unit

@[reducible] def mongo : Signature := ⟨Op, Op.Reply⟩

/-- A write of an open transaction. -/
def execInSession (c : Command) (db : Db) (x : Exchange) :
    Db × Exchange × Except MongoError c.Result :=
  match x.session with
  | .inProgress t =>
      -- the first operation in the session fixes the snapshot
      let t' : Txn := ⟨some (t.begin db), t.writes⟩
      match c.plan (t.view db) with
      | .error e => (db, { x with session := .inProgress (t.refuse e db) }, .error e)
      | .ok (w, r) =>
          if (t.view db).accepts w then
            (db, { x with session := .inProgress { t' with writes := t.writes ++ w } }, .ok r)
          else (db, { x with session := .inProgress t' }, .error .duplicateKey)
  | _ => (db, x, .error .illegalTransactionState)

/-- A write without the session: it takes effect at once. -/
def execDirect (c : Command) (db : Db) (x : Exchange) :
    Db × Exchange × Except MongoError c.Result :=
  match c.plan db.store with
  | .error e => (db, x, .error e)
  | .ok (w, r) =>
      if db.store.accepts w then
        ({ db with store := db.store.apply w, oplog := db.oplog ++ [w.keys] }, x, .ok r)
      else (db, x, .error .duplicateKey)

/-- `session.commitTransaction()`. After a commit that failed in the server the driver takes the
transaction as over, and a later abort is refused. A write conflict stands for the error of the
write that met it, after which an abort is possible. -/
def execCommit (db : Db) (x : Exchange) : Db × Exchange × Except MongoError Unit :=
  match x.session with
  | .inProgress t =>
      if x.env.commitFails then (db, { x with session := .aborted }, .error .commitFailed)
      else if t.conflicts db then (db, x, .error .writeConflict)
      else if db.store.accepts t.writes then
        ({ db with store := db.store.apply t.writes, oplog := db.oplog ++ [t.writes.keys] },
          { x with session := .committed t.writes }, .ok ())
      else (db, x, .error .duplicateKey)
  | _ => (db, x, .error .illegalTransactionState)

/-- `session.abortTransaction()`: refused before a transaction and after its end. -/
def execAbort (db : Db) (x : Exchange) : Db × Exchange × Except MongoError Unit :=
  match x.session with
  | .inProgress _ => (db, { x with session := .aborted }, .ok ())
  | _ => (db, x, .error .illegalTransactionState)

/-- Sending a response; a second one throws. -/
def execSend (r : Response) (db : Db) (x : Exchange) : Db × Exchange × Except JsError Unit :=
  if x.sent = [] then (db, { x with sent := [r] }, .ok ()) else (db, x, .error .headersSent)

/-- `cloudinary.uploader.destroy(cloudId)`. -/
def execDestroy (cloudId : Option String) (db : Db) (x : Exchange) :
    Db × Exchange × Except JsError Unit :=
  let x' := { x with destroyCalls := x.destroyCalls + 1 }
  if x.env.destroyFails x.destroyCalls then (db, x', .error .cloudinary)
  else (db, { x' with destroyed := x.destroyed ++ [cloudId] }, .ok ())

/-- The meaning of the operations. -/
def sem : Sem mongo Db Exchange
  | .read q, db, x => (db, { x with reads := x.reads ++ [(q, db.store)] }, q.eval db.store)
  | .newId, db, x => ({ db with nextId := db.nextId + 1 }, x, db.nextId)
  | .now, db, x => (db, x, x.env.now)
  | .startTransaction, db, x => (db, { x with session := .inProgress ⟨none, {}⟩ }, ())
  | .inSession c, db, x => execInSession c db x
  | .direct c, db, x => execDirect c db x
  | .commitTransaction, db, x => execCommit db x
  | .abortTransaction, db, x => execAbort db x
  | .send r, db, x => execSend r db x
  | .destroy cloudId, db, x => execDestroy cloudId db x

/-- A handler: a program over the operations that may throw. -/
abbrev Js (α : Type) : Type := Prog mongo JsError α

/-- Unwraps a reply, throwing the error if there is one. -/
def orThrow {ε α : Type} (wrap : ε → JsError) : Except ε α → Js α
  | .ok a => .done a
  | .error e => .fail (wrap e)

def read (q : Query) : Js q.Result := .op (S := mongo) (.read q)

def newId : Js ObjectId := .op (S := mongo) .newId

def now : Js Date := .op (S := mongo) .now

def startTransaction : Js Unit := .op (S := mongo) .startTransaction

def inSession (c : Command) : Js c.Result :=
  .op (S := mongo) (.inSession c) >>= orThrow .mongo

def direct (c : Command) : Js c.Result := .op (S := mongo) (.direct c) >>= orThrow .mongo

def commitTransaction : Js Unit := .op (S := mongo) .commitTransaction >>= orThrow .mongo

def abortTransaction : Js Unit := .op (S := mongo) .abortTransaction >>= orThrow .mongo

def send (r : Response) : Js Unit := .op (S := mongo) (.send r) >>= orThrow id

def destroy (cloudId : Option String) : Js Unit :=
  .op (S := mongo) (.destroy cloudId) >>= orThrow id

end InventoryHero.Model
