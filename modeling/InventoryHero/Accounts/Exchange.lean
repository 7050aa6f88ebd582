import InventoryHero.Accounts.Validation
import InventoryHero.Interaction.Program

/-!
# Tokens, answers and the operations of the account routes

A handler is a program over the operations `Op`, as in the product controller, but requests to the
account routes are served one at a time in most of this development (`Accounts.Interleaved` is the
exception): the session of a sign-up holds the documents to be inserted and nothing else.

A JSON web token is its claims and its expiry (`Token`): `jwt.verify` returns the claims of a token
that was signed here and has not expired, and a client cannot make one (`Cookie.other` stands for
every other string). Hashing is bcrypt's, which is a parameter (`Packages`).
-/

set_option autoImplicit false

namespace InventoryHero.Accounts

open Interaction Storage
open Model (ObjectId Date MongoError)

/-- What is used of packages outside the repository: Joi's email rule, and bcrypt with a salt. -/
structure Packages where
  isEmail : String → Bool
  hash : Nat → String → String
  compare : String → String → Bool

/-! ## Tokens -/

/-- The payload of a token; a field that is `undefined` when it is signed is left out. -/
structure Claims where
  _id : Option ObjectId
  email : Option String
  role : Option String
  isVerified : Option Bool
  deriving DecidableEq, Repr

/-- A token signed with `process.env.JWT_SECRET`; `exp` is in seconds. -/
structure Token where
  claims : Claims
  exp : Int
  deriving DecidableEq, Repr

/-- The value of a cookie that is not empty. -/
inductive Cookie
  | signed (token : Token)
  | other
  deriving DecidableEq, Repr

/-- `Date.now()` in seconds. -/
def seconds (now : Date) : Int := now / 1000

/-- `expiresIn: '24h'`. -/
def day : Int := 86400

/-- `expiresIn: '15d'`. -/
def fifteenDays : Int := 1296000

/-- `jwt.sign(claims, process.env.JWT_SECRET, { expiresIn })`. -/
def sign (claims : Claims) (expiresIn : Int) (now : Date) : Token :=
  ⟨claims, seconds now + expiresIn⟩

/-- `jwt.verify(cookie, process.env.JWT_SECRET)`. -/
def verify (now : Date) : Cookie → Option Token
  | .signed t => if seconds now < t.exp then some t else none
  | .other => none

/-- `isVerified === false && role !== 'admin'`. -/
def unverified (isVerified : Option Bool) (role : Option String) : Bool :=
  isVerified = some false && role ≠ some "admin"

/-- The cookies of a request. -/
structure Cookies where
  jwt : Option Cookie := none
  rjwt : Option Cookie := none
  deriving DecidableEq, Repr

/-- A cookie that a response sets; the value can be `undefined`. -/
inductive SetCookie
  | jwt (value : Option Cookie)
  | rjwt (value : Option Cookie)
  | id (value : Option ObjectId)
  deriving DecidableEq, Repr

/-! ## Answers -/

/-- Errors a handler can throw. -/
inductive Failure
  /-- `new Exception(message, status)`. -/
  | exception (message : String) (status : Nat)
  /-- `new Error('Unauthorized User')`. -/
  | unauthorizedUser
  /-- A property of `null` was read. -/
  | typeError
  | mongo (e : MongoError)
  /-- bcrypt was given something that is not a string. -/
  | bcrypt
  /-- The mail service answered with an error. -/
  | mail
  /-- A second response was sent. -/
  | headersSent
  deriving DecidableEq, Repr

/-- `error.status`. -/
def Failure.status : Failure → Option Nat
  | exception _ status => some status
  | _ => none

/-- The `data` argument of `Msg`. -/
inductive Data
  /-- `{ user }`. -/
  | user (account : Option Account)
  /-- `{ name: text }`. -/
  | field (name : String) (text : String)
  deriving DecidableEq, Repr

inductive Content
  /-- `res.send(text)`. -/
  | text (text : String)
  /-- `res.json({ field: text })`. -/
  | json (field : String) (text : String)
  /-- `{ success, message }`. -/
  | outcome (success : Bool) (message : String)
  /-- `{ success: true, message, data, redirectUrl }`. -/
  | verified (message : String) (data : Option Account) (redirectUrl : String)
  /-- `Msg(res, data, message, statusCode)`. -/
  | envelope (data : Data) (message : String)
  /-- An error forwarded with `next`. -/
  | error (e : Failure)
  deriving DecidableEq, Repr

structure Answer where
  status : Nat
  content : Content
  deriving DecidableEq, Repr

/-- `utils/resMsg.js`. -/
def Msg (data : Data) (message : String) (statusCode : Nat) : Answer :=
  ⟨statusCode, .envelope data message⟩

/-- `next(new Exception(error.message, error.status))`. -/
def Answer.next (e : Failure) : Answer := ⟨e.status.getD 500, .error e⟩

/-- The answer reports success. -/
def Answer.ok (a : Answer) : Bool := 200 ≤ a.status && a.status < 300

/-! ## State of a request -/

/-- External circumstances of a request: the time, the values `generateString` and bcrypt's salt
take, whether the commit or the mail service fails, and the document that `findOne` returns when
the id it is given is `undefined`, which Mongoose leaves open. -/
structure Env where
  now : Date
  generated : String
  salt : Nat
  commitFails : Bool
  mailFails : Bool
  undefinedId : Option ObjectId

/-- The session of a sign-up: the documents to be inserted, once they are created. -/
inductive Session
  | idle
  | inProgress (user : Option Account) (auth : Option Auth)
  | committed
  | aborted

/-- A write that took effect. -/
inductive Written
  | created (user : ObjectId)
  | updated (user : ObjectId)
  | deleted (user : ObjectId)
  | secret (user : ObjectId)
  | cached (token : String)
  deriving DecidableEq, Repr

/-- Local state of a request. `wrote` records the writes that took effect; nothing depends on it but
statements. -/
structure Exchange where
  env : Env
  session : Session
  sent : List Answer
  cookies : List SetCookie
  wrote : List Written

/-- A request that has just arrived. -/
def Exchange.init (env : Env) : Exchange := ⟨env, .idle, [], [], []⟩

/-! ## Operations -/

/-- Queries for one account. -/
inductive UserQuery
  /-- `User.findById(id)`: an undefined id finds nothing. -/
  | findById (id : Option ObjectId)
  /-- `User.findOne({ _id: id })`. -/
  | findOneById (id : Option ObjectId)
  | email (email : Option String)
  | emailOrTelephone (email telephone : Option String)

/-- What a handler can do, one step at a time. -/
inductive Op
  | findUser (q : UserQuery)
  | findAuth (user : ObjectId)
  | getCache (key : String)
  | setCache (key : String) (email : Option String)
  | generateString
  | newId
  | now
  | salt
  | startTransaction
  /-- `User.create([account], { session })`. -/
  | createUser (account : Account)
  /-- `Auth.create([auth], { session })`, after the hook that hashes the secret. -/
  | createAuth (auth : Auth)
  | commitTransaction
  | abortTransaction
  | updateUser (id : ObjectId) (data : AccountUpdate)
  /-- `User.findOneAndUpdate({ email }, { isVerified: true })`. -/
  | verifyUserByEmail (email : Option String)
  | deleteUser (id : ObjectId)
  /-- `Auth.updateOne({ _id }, { $set: { secret } })`. -/
  | setSecret (auth : Auth) (secret : String)
  /-- `user.save()` with no change that the schema knows of. -/
  | saveUser (user : Account)
  | postMail
  | cookie (c : SetCookie)
  | send (a : Answer)

@[reducible] def Op.Reply : Op → Type
  | .findUser _ => Option Account
  | .findAuth _ => Option Auth
  | .getCache _ => Option Ticket
  | .generateString => String
  | .newId => ObjectId
  | .now => Date
  | .salt => Nat
  | .createUser _ => Except MongoError Unit
  | .commitTransaction => Except MongoError Unit
  | .abortTransaction => Except MongoError Unit
  | .updateUser _ _ => Except MongoError (Option Account)
  | .verifyUserByEmail _ => Option Account
  | .saveUser _ => Except MongoError Unit
  | .postMail => Except Failure Unit
  | .send _ => Except Failure Unit
  | _ => Unit

@[reducible] def web : Signature := ⟨Op, Op.Reply⟩

def UserQuery.eval (s : Site) (env : Env) : UserQuery → Option Account
  | .findById id => id.bind s.users.get?
  | .findOneById (some id) => s.users.get? id
  | .findOneById none => env.undefinedId.bind s.users.get?
  | .email e => s.users.byEmail e
  | .emailOrTelephone e t => s.users.byEmailOrTelephone e t

/-- `session.commitTransaction()`. -/
def execCommit (s : Site) (x : Exchange) : Site × Exchange × Except MongoError Unit :=
  match x.session with
  | .inProgress (some user) (some auth) =>
      -- the driver takes a transaction whose commit failed as over
      if x.env.commitFails then (s, { x with session := .aborted }, .error .commitFailed)
      else
        match s.users.create user with
        | .error e => (s, x, .error e)
        | .ok users =>
            ({ s with users := users, auths := s.auths.insert auth },
              { x with session := .committed, wrote := x.wrote ++ [.created user._id] }, .ok ())
  | _ => (s, x, .error .illegalTransactionState)

/-- The meaning of the operations. -/
def sem : Sem web Site Exchange
  | .findUser q, s, x => (s, x, q.eval s x.env)
  | .findAuth user, s, x => (s, x, s.authOf user)
  | .getCache key, s, x => (s, x, s.getCache key x.env.now)
  | .setCache key email, s, x =>
      ({ s with cache := ⟨key, email, x.env.now + ticketTtl⟩ :: s.cache },
        { x with wrote := x.wrote ++ [.cached key] }, ())
  | .generateString, s, x => (s, x, x.env.generated)
  | .newId, s, x => ({ s with nextId := s.nextId + 1 }, x, s.nextId)
  | .now, s, x => (s, x, x.env.now)
  | .salt, s, x => (s, x, x.env.salt)
  | .startTransaction, s, x => (s, { x with session := .inProgress none none }, ())
  | .createUser account, s, x =>
      if account.valid then
        match s.users.create account with
        | .error e => (s, x, .error e)
        | .ok _ => (s, { x with session := .inProgress (some account) none }, .ok ())
      else (s, x, .error .validation)
  | .createAuth auth, s, x =>
      match x.session with
      | .inProgress user _ => (s, { x with session := .inProgress user (some auth) }, ())
      | _ => (s, x, ())
  | .commitTransaction, s, x => execCommit s x
  | .abortTransaction, s, x =>
      match x.session with
      | .inProgress _ _ => (s, { x with session := .aborted }, .ok ())
      | _ => (s, x, .error .illegalTransactionState)
  | .updateUser id data, s, x =>
      -- Mongoose sends an update without fields as a query
      if data = {} then (s, x, .ok (s.users.get? id))
      else
        match s.users.update id data with
        | .error e => (s, x, .error e)
        | .ok (_, none) => (s, x, .ok none)
        | .ok (users, some a) =>
            ({ s with users := users }, { x with wrote := x.wrote ++ [.updated id] },
              .ok (some a))
  | .verifyUserByEmail email, s, x =>
      match s.users.byEmail email with
      | none => (s, x, none)
      -- the document is returned as it was
      | some a =>
          ({ s with users := s.users.verify a._id },
            { x with wrote := x.wrote ++ [.updated a._id] }, some a)
  | .deleteUser id, s, x =>
      ({ s with users := s.users.remove id }, { x with wrote := x.wrote ++ [.deleted id] }, ())
  | .setSecret auth secret, s, x =>
      ({ s with auths := s.auths.modify auth._id (Accounts.setSecret secret) },
        { x with wrote := x.wrote ++ [.secret auth.user] }, ())
  | .saveUser user, s, x =>
      if user.valid then (s, x, .ok ()) else (s, x, .error .validation)
  | .postMail, s, x => (s, x, if x.env.mailFails then .error .mail else .ok ())
  | .cookie c, s, x => (s, { x with cookies := x.cookies ++ [c] }, ())
  | .send a, s, x =>
      if x.sent = [] then (s, { x with sent := [a] }, .ok ()) else (s, x, .error .headersSent)

/-- A handler: a program over the operations that may throw. -/
abbrev Web (α : Type) : Type := Prog web Failure α

/-- Unwraps a reply, throwing the error if there is one. -/
def orThrow {ε α : Type} (wrap : ε → Failure) : Except ε α → Web α
  | .ok a => .done a
  | .error e => .fail (wrap e)

/-- A property of the value is read next: `null` throws. -/
def orTypeError {α : Type} : Option α → Web α
  | some a => .done a
  | none => .fail .typeError

def findUser (q : UserQuery) : Web (Option Account) := .op (S := web) (.findUser q)

def findAuth (user : ObjectId) : Web (Option Auth) := .op (S := web) (.findAuth user)

def getCache (key : String) : Web (Option Ticket) := .op (S := web) (.getCache key)

def setCache (key : String) (email : Option String) : Web Unit :=
  .op (S := web) (.setCache key email)

def generateString : Web String := .op (S := web) .generateString

def newId : Web ObjectId := .op (S := web) .newId

def now : Web Date := .op (S := web) .now

def startTransaction : Web Unit := .op (S := web) .startTransaction

def createUser (account : Account) : Web Unit :=
  .op (S := web) (.createUser account) >>= orThrow .mongo

def createAuth (auth : Auth) : Web Unit := .op (S := web) (.createAuth auth)

def commitTransaction : Web Unit := .op (S := web) .commitTransaction >>= orThrow .mongo

def abortTransaction : Web Unit := .op (S := web) .abortTransaction >>= orThrow .mongo

def findByIdAndUpdate (id : ObjectId) (data : AccountUpdate) : Web (Option Account) :=
  .op (S := web) (.updateUser id data) >>= orThrow .mongo

def verifyUserByEmail (email : Option String) : Web (Option Account) :=
  .op (S := web) (.verifyUserByEmail email)

def findOneAndDelete (id : ObjectId) : Web Unit := .op (S := web) (.deleteUser id)

def updateSecret (auth : Auth) (secret : String) : Web Unit :=
  .op (S := web) (.setSecret auth secret)

def saveUser (user : Account) : Web Unit := .op (S := web) (.saveUser user) >>= orThrow .mongo

def postMail : Web Unit := .op (S := web) .postMail >>= orThrow id

def cookie (c : SetCookie) : Web Unit := .op (S := web) (.cookie c)

def send (a : Answer) : Web Unit := .op (S := web) (.send a) >>= orThrow id

/-- `bcrypt.hash(password, 10)`. -/
def hash (pk : Packages) : Option String → Web String
  | none => .fail .bcrypt
  | some password => .op (S := web) .salt >>= fun salt => .done (pk.hash salt password)

/-- `bcrypt.compare(password, secret)`. -/
def compare (pk : Packages) (password : Option String) (secret : String) : Web Bool :=
  match password with
  | none => .fail .bcrypt
  | some password => .done (pk.compare password secret)

end InventoryHero.Accounts
