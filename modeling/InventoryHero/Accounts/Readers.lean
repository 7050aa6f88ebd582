import InventoryHero.Accounts.Controller

/-!
# Handlers that only read accounts

`myAccout`, `findOne`, `findAll` and `searchUser` issue one query each and answer with what it
finds, so they are functions of the site. `myAccout` looks for the id in the cookie `id`, which a
client can set as it likes, and not for that of the token.
-/

set_option autoImplicit false

namespace InventoryHero.Accounts

open Model (ObjectId)

inductive AccountBody
  /-- `Msg(res, { name: user })`. -/
  | account (name : String) (user : Account)
  /-- `Msg(res, { users })`. -/
  | accounts (users : List Account)
  /-- An error forwarded with `next`. -/
  | error (err : Failure)
  deriving DecidableEq, Repr

structure AccountResponse where
  status : Nat
  body : AccountBody
  deriving DecidableEq, Repr

/-- `next(new Exception(err.message, err.status))`. -/
def AccountResponse.next (err : Failure) : AccountResponse := ⟨err.status.getD 500, .error err⟩

/-- The answer to a query for one account: it is an error to find none. -/
def answerUser (name : String) : Option Account → AccountResponse
  | none => .next (.exception "user  not found " 400)
  | some user => ⟨200, .account name user⟩

section Readers

variable (objectId : String → Option ObjectId) (s : Site) (env : Env)

/-- `User.findOne({ _id: id })`, for an id that Mongoose casts first. -/
def answerById (name : String) (id : Option String) : AccountResponse :=
  match id.map objectId with
  | none => answerUser name (UserQuery.eval s env (.findOneById none))
  | some none => .next (.mongo .cast)
  | some (some id) => answerUser name (UserQuery.eval s env (.findOneById (some id)))

def myAccout (userId : Option String) : AccountResponse := answerById objectId s env "data" userId

def findOne (id : String) : AccountResponse := answerById objectId s env "user" (some id)

/-- The fields that are selected are all that `Account` has. -/
def findAll : AccountResponse := ⟨200, .accounts s.users.docs⟩

def searchUser (email telephone : Option String) : AccountResponse :=
  answerUser "user" (UserQuery.eval s env (.emailOrTelephone email telephone))

end Readers

end InventoryHero.Accounts
