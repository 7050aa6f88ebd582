import InventoryHero.Accounts.Documents

/-!
# Request bodies of the account routes and their validation

`validations/register.js`. Bodies are typed, as those of the product routes are: unknown keys and
values of another type are not representable. Whether a string is an email address is decided by
Joi, which is not part of the repository; it is a parameter.
-/

set_option autoImplicit false

namespace InventoryHero.Accounts

open Model (Joi.required Joi.string Joi.requiredString Joi.optional bind_ok)

/-- `s.length` in JavaScript, which counts UTF-16 code units. -/
def jsLength (s : String) : Nat :=
  (s.toList.map fun c => if c.toNat < 0x10000 then 1 else 2).sum

/-- `.min(least).max(most)` of a string that is present and not empty. -/
def checkLength (label : String) (least most : Nat) (s : String) : Except String String :=
  if jsLength s < least then
    .error ("\"" ++ label ++ "\" length must be at least " ++ toString least ++ " characters long")
  else if most < jsLength s then
    .error ("\"" ++ label ++ "\" length must be less than or equal to " ++ toString most ++
      " characters long")
  else .ok s

/-- `Joi.string().min(least).max(most).required()`. -/
def requiredLength (label : String) (least most : Nat) (s : Option String) :
    Except String String := do
  checkLength label least most (← Joi.requiredString label s)

/-- `.email()`. -/
def checkEmail (isEmail : String → Bool) (s : String) : Except String String :=
  if isEmail s then .ok s else .error "\"email\" must be a valid email"

/-- Body of the two sign-ups. -/
structure RegisterBody where
  firstName : Option String
  lastName : Option String
  telephone : Option String
  role : Option String
  email : Option String
  password : Option String

/-- A body that `registerValidation` accepts. -/
structure RegisterData where
  firstName : String
  lastName : String
  telephone : String
  role : Option String
  email : String
  password : String

def registerValidation (isEmail : String → Bool) (data : RegisterBody) :
    Except String RegisterData := do
  let firstName ← requiredLength "firstName" 3 255 data.firstName
  let lastName ← requiredLength "lastName" 3 255 data.lastName
  let telephone ← requiredLength "telephone" 11 14 data.telephone
  let role ← Joi.optional (Joi.string "role") data.role
  let email ← checkEmail isEmail (← Joi.requiredString "email" data.email)
  let password ← requiredLength "password" 8 1024 data.password
  return { firstName, lastName, telephone, role, email, password }

/-- Body of `Login`. -/
structure LoginBody where
  email : Option String
  telephone : Option String
  password : Option String

/-- A body that `LoginValidation` accepts. -/
structure LoginData where
  email : Option String
  telephone : Option String
  password : String

def LoginValidation (isEmail : String → Bool) (data : LoginBody) : Except String LoginData := do
  let email ← Joi.optional (fun s => do checkEmail isEmail (← Joi.string "email" s)) data.email
  let telephone ← Joi.optional (Joi.string "telephone") data.telephone
  let password ← requiredLength "password" 8 1024 data.password
  return { email, telephone, password }

def EmailValidation (isEmail : String → Bool) (email : Option String) : Except String String := do
  checkEmail isEmail (← Joi.requiredString "email" email)

/-! ## What is accepted -/

theorem bind_eq_ok_iff {ε α β : Type} {x : Except ε α} {f : α → Except ε β} {b : β} :
    (x >>= f) = .ok b ↔ ∃ a, x = .ok a ∧ f a = .ok b := by
  constructor
  · exact bind_ok
  · rintro ⟨a, rfl, h⟩
    exact h

theorem string_eq_ok_iff {label s w : String} : Joi.string label s = .ok w ↔ s = w ∧ s ≠ "" := by
  unfold Joi.string
  split
  · simp_all
  · simp_all

theorem requiredString_eq_ok_iff {label w : String} {s : Option String} :
    Joi.requiredString label s = .ok w ↔ s = some w ∧ w ≠ "" := by
  unfold Joi.requiredString
  rw [bind_eq_ok_iff]
  cases s with
  | none => simp [Joi.required]
  | some v =>
      simp only [Joi.required, Except.ok.injEq, exists_eq_left', string_eq_ok_iff,
        Option.some.injEq]
      constructor
      · rintro ⟨rfl, h⟩
        exact ⟨rfl, h⟩
      · rintro ⟨rfl, h⟩
        exact ⟨rfl, h⟩

theorem checkLength_eq_ok_iff {label s w : String} {least most : Nat} :
    checkLength label least most s = .ok w ↔ s = w ∧ least ≤ jsLength s ∧ jsLength s ≤ most := by
  unfold checkLength
  split
  · simp
    omega
  · split
    · simp
      omega
    · simp
      omega

theorem checkEmail_eq_ok_iff {isEmail : String → Bool} {s w : String} :
    checkEmail isEmail s = .ok w ↔ s = w ∧ isEmail s = true := by
  unfold checkEmail
  split
  · simp_all
  · simp_all

theorem requiredLength_eq_ok_iff {label w : String} {least most : Nat} {s : Option String} :
    requiredLength label least most s = .ok w ↔
      s = some w ∧ w ≠ "" ∧ least ≤ jsLength w ∧ jsLength w ≤ most := by
  unfold requiredLength
  simp only [bind_eq_ok_iff, requiredString_eq_ok_iff, checkLength_eq_ok_iff]
  constructor
  · rintro ⟨v, ⟨hs, hempty⟩, rfl, hlength⟩
    exact ⟨hs, hempty, hlength⟩
  · rintro ⟨hs, hempty, hlength⟩
    exact ⟨w, ⟨hs, hempty⟩, rfl, hlength⟩

/-- What a sign-up that is accepted says about the email and the password. -/
theorem registerValidation_ok {isEmail : String → Bool} {body : RegisterBody} {data : RegisterData}
    (h : registerValidation isEmail body = .ok data) :
    data.email ≠ "" ∧ isEmail data.email = true ∧ body.password = some data.password ∧
      8 ≤ jsLength data.password ∧ jsLength data.password ≤ 1024 := by
  obtain ⟨firstName, -, h⟩ := bind_ok h
  obtain ⟨lastName, -, h⟩ := bind_ok h
  obtain ⟨telephone, -, h⟩ := bind_ok h
  obtain ⟨role, -, h⟩ := bind_ok h
  obtain ⟨email, hemail, h⟩ := bind_ok h
  obtain ⟨checked, hchecked, h⟩ := bind_ok h
  obtain ⟨password, hpassword, h⟩ := bind_ok h
  obtain rfl := Except.ok.inj h
  obtain ⟨rfl, hisEmail⟩ := checkEmail_eq_ok_iff.1 hchecked
  obtain ⟨hgiven, -, hlength⟩ := requiredLength_eq_ok_iff.1 hpassword
  exact ⟨(requiredString_eq_ok_iff.1 hemail).2, hisEmail, hgiven, hlength⟩

/-- A login with an email of an account and no telephone number. -/
theorem LoginValidation_eq_ok_iff {isEmail : String → Bool} {email : String}
    {password : Option String} {data : LoginData} (hgiven : email ≠ "")
    (hemail : isEmail email = true) :
    LoginValidation isEmail ⟨some email, none, password⟩ = .ok data ↔
      ∃ w, password = some w ∧ w ≠ "" ∧ 8 ≤ jsLength w ∧ jsLength w ≤ 1024 ∧
        data = ⟨some email, none, w⟩ := by
  have hchecked : Joi.optional (fun s => do checkEmail isEmail (← Joi.string "email" s))
      (some email) = .ok (some email) := by
    simp [Joi.optional, Joi.string, checkEmail, hgiven, hemail, bind, Except.bind, pure,
      Except.pure]
  have habsent : Joi.optional (Joi.string "telephone") none = .ok none := rfl
  unfold LoginValidation
  rw [hchecked, habsent]
  show (requiredLength "password" 8 1024 password >>= fun w =>
    pure (LoginData.mk (some email) none w)) = .ok data ↔ _
  rw [bind_eq_ok_iff]
  constructor
  · rintro ⟨w, hpassword, hdata⟩
    obtain ⟨hsome, hempty, hleast, hmost⟩ := requiredLength_eq_ok_iff.1 hpassword
    exact ⟨w, hsome, hempty, hleast, hmost, (Except.ok.inj hdata).symm⟩
  · rintro ⟨w, hsome, hempty, hleast, hmost, rfl⟩
    exact ⟨w, requiredLength_eq_ok_iff.2 ⟨hsome, hempty, hleast, hmost⟩, rfl⟩

end InventoryHero.Accounts
