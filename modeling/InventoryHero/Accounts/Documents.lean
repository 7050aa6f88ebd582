import InventoryHero.Storage.Index
import InventoryHero.Model.Database

/-!
# Accounts, passwords and links

The two collections behind the account routes (`database/models/users.js`,
`database/models/auth.js`) and the records that `utils/redisCache.js` keeps. Sign-up checks an
account before it is stored; a profile update is stored as it is sent, so every field but the id can
later be any string or `null` (`none`).

The unique indexes on `email` and `telephone` are part of the type `Users`: two accounts with one
email cannot be built. MongoDB indexes a `null`, too, so at most one account has no email.
-/

set_option autoImplicit false

namespace InventoryHero.Accounts

open Storage
open Model (ObjectId Date MongoError)

/-- `database/models/users.js`. -/
structure Account where
  _id : ObjectId
  firstName : Option String
  lastName : Option String
  email : Option String
  telephone : Option String
  isVerified : Option Bool
  role : Option String
  deriving DecidableEq, Repr

/-- `database/models/auth.js`: the password of an account, hashed. -/
structure Auth where
  _id : ObjectId
  user : ObjectId
  secret : String
  deriving DecidableEq, Repr

instance : Keyed Account ObjectId := ⟨Account._id⟩
instance : Keyed Auth ObjectId := ⟨Auth._id⟩

@[simp] theorem key_account (a : Account) : Keyed.key a = a._id := rfl
@[simp] theorem key_auth (a : Auth) : Keyed.key a = a._id := rfl

/-- `required: true` of a string. -/
def given (s : Option String) : Bool := s.elim false fun s => s ≠ ""

/-- `enum: ['user', 'admin', 'super admin']`; the validator lets `null` pass. -/
def isRole (role : Option String) : Bool :=
  role.elim true fun s => s = "user" || s = "admin" || s = "super admin"

/-- What `create` and `save` check. -/
def Account.valid (a : Account) : Bool :=
  given a.firstName && given a.lastName && given a.email && given a.telephone && isRole a.role

/-- Second argument of `User.findByIdAndUpdate`: the fields of the schema that the body has, each a
value or `null`. The last two are read nowhere and not kept; an update with such a field alone is
still one that is sent. -/
structure AccountUpdate where
  firstName : Option (Option String) := none
  lastName : Option (Option String) := none
  email : Option (Option String) := none
  telephone : Option (Option String) := none
  isVerified : Option (Option Bool) := none
  role : Option (Option String) := none
  accessToken : Option (Option String) := none
  createdAt : Option (Option Date) := none
  deriving DecidableEq, Repr

def AccountUpdate.patch (u : AccountUpdate) : Patch Account where
  apply a :=
    { a with
      firstName := u.firstName.getD a.firstName
      lastName := u.lastName.getD a.lastName
      email := u.email.getD a.email
      telephone := u.telephone.getD a.telephone
      isVerified := u.isVerified.getD a.isVerified
      role := u.role.getD a.role }
  key_apply _ := rfl

/-- `{ isVerified: true }`. -/
def setVerified : Patch Account where
  apply a := { a with isVerified := some true }
  key_apply _ := rfl

/-- `$set: { secret }`. -/
def setSecret (secret : String) : Patch Auth where
  apply a := { a with secret := secret }
  key_apply _ := rfl

/-! ## The collection of accounts -/

/-- Accounts with unique emails and telephone numbers. -/
structure Users extends Collection Account where
  emails : toCollection.Unique Account.email
  telephones : toCollection.Unique Account.telephone

namespace Users

/-- No account. -/
def empty : Users := ⟨.empty, List.nodup_nil, List.nodup_nil⟩

/-- `User.findOne({ email })`; a missing email is sent as `null`. -/
def byEmail (users : Users) (email : Option String) : Option Account :=
  users.docs.find? fun a => a.email = email

/-- `User.findOne({ $or: [{ email }, { telephone }] })`. -/
def byEmailOrTelephone (users : Users) (email telephone : Option String) : Option Account :=
  users.docs.find? fun a => a.email = email || a.telephone = telephone

/-- No account but `id` has the email or the telephone number of `a`. -/
def Free (users : Users) (id : ObjectId) (a : Account) : Prop :=
  ∀ b ∈ users.docs, b._id ≠ id → b.email ≠ a.email ∧ b.telephone ≠ a.telephone

instance (users : Users) (id : ObjectId) (a : Account) : Decidable (users.Free id a) :=
  inferInstanceAs (Decidable (∀ _ ∈ _, _))

/-- The insertion of an account: refused when its id, email or telephone number is taken. -/
def create (users : Users) (a : Account) : Except MongoError Users :=
  if h : users.accepts (.insert a) = true ∧ users.Free a._id a then
    have hne : ∀ b ∈ users.docs, b._id ≠ a._id := (users.accepts_insert_iff a).1 h.1
    .ok ⟨users.insert a, users.emails.insert fun b hb => (h.2 b hb (hne b hb)).1,
      users.telephones.insert fun b hb => (h.2 b hb (hne b hb)).2⟩
  else .error .duplicateKey

/-- `User.findByIdAndUpdate(id, data, { new: true })`: refused when the new email or telephone
number is another account's. -/
def update (users : Users) (id : ObjectId) (data : AccountUpdate) :
    Except MongoError (Users × Option Account) :=
  if h : ∀ a ∈ users.docs, a._id = id → users.Free id (data.patch.apply a) then
    .ok (⟨users.modify id data.patch,
        users.emails.modify fun a ha hid b hb hne => (h a ha hid b hb hne).1,
        users.telephones.modify fun a ha hid b hb hne => (h a ha hid b hb hne).2⟩,
      (users.get? id).map data.patch.apply)
  else .error .duplicateKey

/-- `isVerified` of the account `id` is set; no index is concerned. -/
def verify (users : Users) (id : ObjectId) : Users where
  toCollection := users.modify id setVerified
  emails := users.emails.modify fun _ ha hid _ hb hne hf => hne (users.emails.eq hb ha hf ▸ hid)
  telephones :=
    users.telephones.modify fun _ ha hid _ hb hne hf => hne (users.telephones.eq hb ha hf ▸ hid)

/-- `User.findOneAndDelete({ _id })`. -/
def remove (users : Users) (id : ObjectId) : Users :=
  ⟨users.delete id, users.emails.delete id, users.telephones.delete id⟩

theorem byEmail_eq_some_iff {users : Users} {email : Option String} {a : Account} :
    users.byEmail email = some a ↔ a ∈ users.docs ∧ a.email = email :=
  users.emails.find?_eq_some_iff

theorem create_ok {users users' : Users} {a : Account} (h : users.create a = .ok users') :
    (∀ b ∈ users.docs, b._id ≠ a._id) ∧ users'.docs = users.docs ++ [a] := by
  unfold create at h
  split at h
  · rename_i hfree
    cases h
    exact ⟨(users.accepts_insert_iff a).1 hfree.1, Collection.docs_insert hfree.1⟩
  · cases h

theorem update_ok {users users' : Users} {id : ObjectId} {data : AccountUpdate}
    {r : Option Account} (h : users.update id data = .ok (users', r)) :
    users'.toCollection = users.modify id data.patch ∧
      r = (users.get? id).map data.patch.apply := by
  unfold update at h
  split at h
  · cases h
    exact ⟨rfl, rfl⟩
  · cases h

end Users

/-! ## Links -/

/-- A record that a link refers to: `setCache(token, { token, email }, 900)`. -/
structure Ticket where
  token : String
  email : Option String
  expires : Date
  deriving DecidableEq, Repr

/-- The lifetime of a record, `900` seconds. -/
def ticketTtl : Int := 900000

/-- What the account routes share: the two collections, the cache with the latest record first, and
the next document id. -/
structure Site where
  users : Users
  auths : Collection Auth
  cache : List Ticket
  nextId : ObjectId

namespace Site

/-- `getCache(key)`: the last record set for the key, until it expires. Redis counts a key as
expired when its clock is past the time it expires at (`keyIsExpired` in `db.c`). -/
def getCache (s : Site) (key : String) (now : Date) : Option Ticket :=
  (s.cache.find? fun t => t.token = key).filter fun t => now ≤ t.expires

/-- `Auth.findOne({ user })`. -/
def authOf (s : Site) (user : ObjectId) : Option Auth := s.auths.docs.find? fun a => a.user = user

end Site

end InventoryHero.Accounts
