import Presence.Script.Reply

/-!
Scripts on the lists of friends and party members.
-/

namespace Presence.Script.Lists

inductive Step
  | replaceFriends (u : User) (list : List User)
  | friends (u : User)
  | replaceMembers (p : Party) (list : List User)
  | members (p : Party)
  | refreshFriends (g : Graph .friends)
  | refreshMembers (g : Graph .parties)
  | counts

def step (r : Relationships) : Step → Reply × Relationships
  | .replaceFriends u list => (.nothing, r.replaceFriends u list)
  | .friends u => (.texts ((r.friendsOf u).map Name.text), r)
  | .replaceMembers p list => (.nothing, r.replaceMembers p list)
  | .members p => (.texts ((r.membersOf p).map Name.text), r)
  | .refreshFriends g => (.count g.size, r.refresh .friends g)
  | .refreshMembers g => (.count g.size, r.refresh .parties g)
  | .counts => (.counts [r.count .friends, r.count .parties], r)

end Presence.Script.Lists
