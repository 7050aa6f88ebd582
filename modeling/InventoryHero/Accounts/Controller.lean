import InventoryHero.Accounts.Exchange

/-!
# The authentication controller and its middleware

The handlers of `controller/authentication.js` and `isLoggedIn` of `middleware/authentication.js`,
statement by statement. Handlers that only read (`myAccout`, `findOne`, `findAll`, `searchUser`) are
in `Accounts.Readers`.

Several handlers answer and go on for want of a `return`: the next answer then throws.
-/

set_option autoImplicit false

namespace InventoryHero.Accounts

open Interaction
open Model (ObjectId Date)

section Handlers

variable (pk : Packages)

/-! ## Signing up -/

/-- `new User(data)`: the password is not part of the account. -/
def RegisterData.toAccount (data : RegisterData) (_id : ObjectId) : Account where
  _id := _id
  firstName := data.firstName
  lastName := data.lastName
  email := data.email
  telephone := data.telephone
  isVerified := some false
  role := some (data.role.getD "user")

/-- The part the two sign-ups share: the account and its password are stored together. A token is
signed in the end as well, but it is assigned to the array of created documents and not sent. -/
def register (data : RegisterData) : Web Unit := do
  let isEmailExist ← findUser (.emailOrTelephone data.email data.telephone)
  if isEmailExist.isSome then .fail (.exception "user exist" 400)
  else do
    let userId ← newId
    let account := data.toAccount userId
    createUser account
    let authId ← newId
    let secret ← hash pk data.password
    createAuth ⟨authId, userId, secret⟩
    commitTransaction
    send (Msg (.user account) "registered" 201)

/-- `try { session.startTransaction(); … } catch (error) { session.abortTransaction(); … }`. -/
def withTransaction (body : Web Unit) : Web Unit :=
  Prog.tryCatch (startTransaction >>= fun _ => body) fun e =>
    abortTransaction >>= fun _ => send (.next e)

def signUpEmailPassword (body : RegisterBody) : Web Unit :=
  withTransaction do
    let data ← orThrow (Failure.exception · 400) (registerValidation pk.isEmail body)
    register pk data

/-- Without a token in the query, `getCache` never settles, and nothing more happens. -/
def completeSignup (token : Option String) (body : RegisterBody) : Web Unit :=
  withTransaction do
    let data ← orThrow (Failure.exception · 400) (registerValidation pk.isEmail body)
    match token with
    | none => pure ()
    | some token => do
        let cacheData ← getCache token
        if cacheData.bind Ticket.email ≠ some data.email then
          .fail (.exception "user does not exit" 400)
        else register pk data

def signUpMagicLink (email : Option String) : Web Unit :=
  Prog.tryCatch
    (do
      let email ← orThrow (Failure.exception · 400) (EmailValidation pk.isEmail email)
      let isEmailExist ← findUser (.email email)
      if isEmailExist.elim true fun user => user.isVerified = some true then
        .fail (.exception "user has already been verified/user has not been registered" 400)
      else do
        let token ← generateString
        setCache token email
        postMail
        send (Msg (.field "message" "check your email for verification link") "registered" 201))
    (fun error => send (.next error))

def verifySignUpEmail (token : String) : Web Unit :=
  Prog.tryCatch
    (do
      let extractedToken ← getCache token
      match extractedToken with
      | none => send ⟨400, .outcome false "invalid token/sign up link has expired"⟩
      | some extractedToken => do
          let user ← findUser (.email extractedToken.email)
          match user with
          | none => send ⟨400, .text "no user with this associted email found"⟩
          | some _ => do
              -- the record stays in the cache
              let task ← verifyUserByEmail extractedToken.email
              send ⟨200, .verified "email verified, your account is fully registered" task
                "http://localhost:3000/verified"⟩)
    (fun _ => send ⟨500, .outcome false "internal server error"⟩)

/-! ## Logging in and out -/

/-- The claims of the two tokens that `Login` signs. -/
def Account.claims (user : Account) : Claims := ⟨user._id, user.email, user.role, user.isVerified⟩

def Login (body : LoginBody) : Web Unit :=
  Prog.tryCatch
    (match LoginValidation pk.isEmail body with
      | .error message => send ⟨400, .json "error" message⟩
      | .ok data => do
          let user ← findUser (.emailOrTelephone data.email data.telephone)
          match user with
          | none => .fail (.exception "Invalid email/password " 401)
          | some user => do
              let auth ← findAuth user._id
              match auth with
              | none => .fail (.exception "Invalid password/password " 401)
              | some auth => do
                  let validPassword ← compare pk data.password auth.secret
                  if !validPassword then .fail (.exception "Invalid email/password " 401)
                  else if unverified user.isVerified user.role then .fail .unauthorizedUser
                  else do
                    let today ← now
                    cookie (.jwt (some (.signed (sign user.claims day today))))
                    cookie (.id user._id)
                    cookie (.rjwt (some (.signed (sign user.claims fifteenDays today))))
                    send (Msg (.user user) "login successful" 200))
    (fun err => send (.next err))

/-- The cookies are sent back, to expire at once. -/
def userLogOut (cookies : Cookies) (user : Claims) : Web Unit :=
  Prog.tryCatch
    (do
      cookie (.jwt cookies.jwt)
      cookie (.rjwt cookies.rjwt)
      cookie (.id user._id)
      send ⟨200, .text "log out sucessfully"⟩)
    (fun _ => send ⟨500, .text "internal access error"⟩)

/-- The claims of the token that a cookie carries, if it may pass. -/
def accepted (now : Date) (c : Cookie) : Option Token :=
  (verify now c).filter fun t => !unverified t.claims.isVerified t.claims.role

/-- The access token of a refresh: `isVerified` is not copied. -/
def refreshedClaims (user : Claims) : Claims := ⟨user._id, user.email, user.role, none⟩

/-- The refresh token of a refresh: the id is read from `user.id`, which a decoded token does not
have. -/
def rerefreshedClaims (user : Claims) : Claims := ⟨none, user.email, user.role, none⟩

/-- `isLoggedIn`: the token with which `next()` is called, or `none` when the request is answered
here. `next` runs the handler outside the `try`. -/
def isLoggedIn (cookies : Cookies) : Web (Option Token) :=
  match cookies.jwt with
  | some token => do
      let today ← now
      match accepted today token with
      | none => do
          send ⟨400, .json "message" "unauthorized 2"⟩
          pure none
      | some token => pure (some token)
  | none =>
      match cookies.rjwt with
      | some refreshToken => do
          let today ← now
          match accepted today refreshToken with
          | none => do
              send ⟨500, .text "internal server error"⟩
              pure none
          | some token => do
              cookie (.jwt (some (.signed (sign (refreshedClaims token.claims) day today))))
              cookie (.id token.claims._id)
              cookie (.rjwt (some (.signed
                (sign (rerefreshedClaims token.claims) fifteenDays today))))
              pure (some token)
      | none => do
          send ⟨400, .json "message" "unauthorized "⟩
          pure none

/-! ## Accounts -/

/-- The body is stored without validation. -/
def updateUser (body : AccountUpdate) (caller : Claims) : Web Unit :=
  Prog.tryCatch
    (do
      let user ← findUser (.findOneById caller._id)
      match user with
      | none => .fail (.exception "user  not found " 400)
      | some user => do
          let data ← findByIdAndUpdate user._id body
          send (Msg (.user data) "request successful" 200))
    (fun err => send (.next err))

/-- The password of the account stays behind. -/
def deleteUser (id : ObjectId) : Web Unit :=
  Prog.tryCatch
    (do
      findOneAndDelete id
      send (Msg (.field "data" "user deleted") "request successful" 200))
    (fun err => send ⟨err.status.getD 400, .error err⟩)

/-- The missing account is answered, but nothing returns. -/
def verifyUser (id : ObjectId) (data : AccountUpdate) : Web Unit :=
  Prog.tryCatch
    (do
      let user ← findUser (.findById id)
      if user.isNone then send ⟨404, .text "user not found"⟩
      let _ ← findByIdAndUpdate id data
      send ⟨200, .text "user has been updated"⟩)
    (fun _ => send ⟨500, .text "internal server error"⟩)

/-! ## Passwords -/

/-- The part `changePassWord` and `verifyPassWordResetMail` share: the new password is hashed and
stored past the hook. `user.password` is not a field of the schema, so `save` stores nothing. -/
def storePassword (user : Account) (auth : Auth) (newPassWord : Option String) (message : String) :
    Web Unit := do
  let updatedPassWord ← hash pk newPassWord
  updateSecret auth updatedPassWord
  saveUser user
  send ⟨200, .outcome true message⟩

def changePassWord (oldPassWord newPassWord : Option String) (caller : Claims) : Web Unit :=
  Prog.tryCatch
    (do
      let user ← findUser (.findById caller._id)
      match user with
      | none => send ⟨400, .outcome false "user doesnt exist"⟩
      | some user => do
          let auth ← findAuth user._id
          match auth with
          | none => send ⟨400, .outcome false "you are not authorized to perform this action"⟩
          | some auth => do
              let isPassWordCorrect ← compare pk oldPassWord auth.secret
              if !isPassWordCorrect then send ⟨401, .outcome false "incorrect current password"⟩
              else storePassword pk user auth newPassWord "password updated successfully")
    (fun _ => send ⟨500, .outcome false "internal server error updating password"⟩)

/-- An email of no account is answered, but nothing returns: the record is stored and the mail is
posted all the same. -/
def forgotPassWord (email : Option String) : Web Unit :=
  Prog.tryCatch
    (do
      let EmailExist ← findUser (.email email)
      if EmailExist.isNone then
        send ⟨400, .text "this email is not associated to any user in our data-base"⟩
      let token ← generateString
      setCache token email
      postMail
      send (Msg (.field "message"
        "A link has been sent to your email, kindly  check your email for verification link")
        "registered" 201))
    (fun _ => send ⟨500, .text "internal server error"⟩)

/-- A token without a record is answered, but nothing returns: reading its email throws. The record
of a token that was used stays in the cache. -/
def verifyPassWordResetMail (token : String) (newPassWord : Option String) : Web Unit :=
  Prog.tryCatch
    (do
      let extractedToken ← getCache token
      if extractedToken.isNone then
        send ⟨400, .text "invalid token/password reset link has expired"⟩
      let extractedToken ← orTypeError extractedToken
      let user ← findUser (.email extractedToken.email)
      match user with
      | none => send ⟨400, .text "no user with this associated email found"⟩
      | some user => do
          let auth ← findAuth user._id
          match auth with
          | none => send ⟨400, .text "user has no associated password in the database"⟩
          | some auth =>
              storePassword pk user auth newPassWord "your password has been reset successfully")
    (fun _ => send ⟨500, .text "internal server error"⟩)

end Handlers

/-! ## Routes -/

/-- Requests. `other` stands for the routes that touch neither accounts nor cookies themselves,
those of products and those that only read; `guarded` says whether `isLoggedIn` comes first. -/
inductive Request
  | signUpEmailPassword (body : RegisterBody)
  | completeSignup (token : Option String) (body : RegisterBody)
  | signUpMagicLink (email : Option String)
  | Login (body : LoginBody)
  | verifySignUpEmail (token : String)
  | forgotPassWord (email : Option String)
  | verifyPassWordResetMail (token : String) (newPassWord : Option String)
  | userLogOut
  | updateUser (body : AccountUpdate)
  | changePassWord (oldPassWord newPassWord : Option String)
  | deleteUser (id : ObjectId)
  | verifyUser (id : ObjectId) (data : AccountUpdate)
  | other (guarded : Bool)

/-- A request with its cookies and circumstances. -/
structure Call where
  request : Request
  cookies : Cookies
  env : Env

/-- A handler behind `isLoggedIn`. -/
def guard (cookies : Cookies) (next : Claims → Web Unit) : Web Unit := do
  let passed ← isLoggedIn cookies
  match passed with
  | none => pure ()
  | some token => next token.claims

/-- `routes/user.routes.js` and `routes/admin.routes.js`. -/
def handler (pk : Packages) (request : Request) (cookies : Cookies) : Web Unit :=
  match request with
  | .signUpEmailPassword body => signUpEmailPassword pk body
  | .completeSignup token body => completeSignup pk token body
  | .signUpMagicLink email => signUpMagicLink pk email
  | .Login body => Login pk body
  | .verifySignUpEmail token => verifySignUpEmail token
  | .forgotPassWord email => forgotPassWord email
  | .verifyPassWordResetMail token newPassWord => verifyPassWordResetMail pk token newPassWord
  | .userLogOut => guard cookies (userLogOut cookies)
  | .updateUser body => guard cookies (updateUser body)
  | .changePassWord oldPassWord newPassWord =>
      guard cookies (changePassWord pk oldPassWord newPassWord)
  | .deleteUser id => guard cookies fun _ => deleteUser id
  | .verifyUser id data => guard cookies fun _ => verifyUser id data
  | .other guarded => if guarded then guard cookies fun _ => pure () else pure ()

/-- Serves a request with no other request in between. -/
def serve (pk : Packages) (c : Call) (s : Site) : Final Site Exchange Failure Unit :=
  (handler pk c.request c.cookies).run sem s (.init c.env)

/-- The site after a request. -/
def serveStep (pk : Packages) (c : Call) (s : Site) : Site := (serve pk c s).shared

/-! ## A small site

Data for the concrete runs that stand beside the theorems. The first account gets the id `1` and its
password the id `2`. -/

namespace Sample

/-- Hashing that hides nothing. -/
def packages : Packages where
  isEmail s := '@' ∈ s.toList
  hash _ w := w
  compare w h := w = h

/-- Nobody has signed up yet. -/
def site : Site := ⟨.empty, .empty, [], 1⟩

/-- Nothing fails outside the program, and `generateString` returns `generated`. -/
def env (now : Date) (generated : String) : Env where
  now := now
  generated := generated
  salt := 0
  commitFails := false
  mailFails := false
  undefinedId := none

/-- A request without cookies. -/
def call (request : Request) (now : Date) : Call := ⟨request, {}, env now "link"⟩

/-- A sign-up with the password `password`. -/
def signUp (email telephone : String) (role : Option String) : Request :=
  .signUpEmailPassword
    { firstName := some "shop", lastName := some "keeper", telephone := some telephone, role := role
      email := some email, password := some "password" }

def login (email password : String) : Request :=
  .Login { email := some email, telephone := none, password := some password }

/-- A user signs up and follows the verification link. -/
def verifiedUser : List Call :=
  [call (signUp "u@shop" "08012345678" none) 0, call (.signUpMagicLink (some "u@shop")) 0,
    call (.verifySignUpEmail "link") 0]

/-- The user's account. -/
def userAccount : Account where
  _id := 1
  firstName := some "shop"
  lastName := some "keeper"
  email := some "u@shop"
  telephone := some "08012345678"
  isVerified := some true
  role := some "user"

/-- The claims that the user then logs in with. -/
def userClaims : Claims := ⟨some 1, some "u@shop", some "user", some true⟩

/-- A request with the access token of a login of the user at time zero. -/
def userCall (request : Request) (now : Date) : Call :=
  ⟨request, { jwt := some (.signed (sign userClaims day 0)) }, env now "link"⟩

/-- An admin has signed up. -/
def adminSite : Site :=
  serveStep packages (call (signUp "a@shop" "08012345678" (some "admin")) 0) site

/-- The admin's account. -/
def adminAccount : Account where
  _id := 1
  firstName := some "shop"
  lastName := some "keeper"
  email := some "a@shop"
  telephone := some "08012345678"
  isVerified := some false
  role := some "admin"

end Sample

end InventoryHero.Accounts
