import ChatBoard.Board.Upload
import ChatBoard.Board.View

/-!
# Profiles

The profile of an account, the way to one's own, and changing it.
-/

namespace ChatBoard.Profile

/-- Goes to the account's own profile. -/
def own (user : Entry User) : Response := .redirect ("/profile/" ++ user.row.name)

/-- The profile of the account with a name; one's own comes with the form that changes it. -/
def shown (user : Entry User) (raw : Octets) (s : Store) : Response :=
  match Request.pathText "user_name" raw with
  | .error refusal => .ofRefusal refusal
  | .ok name =>
    match s.listChannels none, s.userByName name with
    | .ok (channels, _), .ok (some other) =>
      .ofPage "profile.html"
        (Page.viewerScope 0 channels user
          [("other", .ofPublicUser (Store.publicUser other.row)),
            ("self_profile", .bool (user.id == other.id))])
    | .ok _, .ok none => .ofFailure .notFound
    | _, _ => .ofFailure .internal

/-- The upload in a body, if it can be read and taken in. -/
def upload? (boundary body : Octets) : Option Upload :=
  match Multipart.parts? boundary body with
  | none => none
  | some parts => Upload.ofParts? parts

/-- Changes the account's profile. -/
def update (user : Entry User) (r : Request) (s : Store) : Response × Store :=
  match r.contentType.bind MediaType.boundary? with
  | none => (.ofRefusal .noBoundary, s)
  | some boundary =>
    if r.isTooLarge then (.ofFailure .badRequest, s)
    else
      match upload? boundary r.body with
      | none => (.ofFailure .badRequest, s)
      | some u =>
        match u.apply user.id s with
        | (.ok _, s') => (.redirect "/", s')
        | (.error _, s') => (.ofFailure .internal, s')

end ChatBoard.Profile
