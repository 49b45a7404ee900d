import Scaffold.Choice
import Scaffold.Name.Grammar
import Scaffold.Template.Render

/-! # Row-level security

Policies that say who may see and change the rows of a table.
-/

namespace Scaffold.Sql

def userOwned : Packaged where
  category := "supabase"
  name := "rls_user_owned.sql"
  body :=
    .text "-- RLS Policies for " <|
    .emit (.var "table") <|
    .text " (user-owned)\n\n-- Enable RLS\nALTER TABLE " <|
    .emit (.var "table") <|
    .text (" ENABLE ROW LEVEL SECURITY;\n\n-- Users can view their own records\n" ++
      "CREATE POLICY \"Users can view own ") <|
    .emit (.var "table") <|
    .text "\"\n  ON " <|
    .emit (.var "table") <|
    .text " FOR SELECT\n  USING (auth.uid() = " <|
    .emit (.var "column") <|
    .text ");\n\n-- Users can create their own records\nCREATE POLICY \"Users can create own " <|
    .emit (.var "table") <|
    .text "\"\n  ON " <|
    .emit (.var "table") <|
    .text " FOR INSERT\n  WITH CHECK (auth.uid() = " <|
    .emit (.var "column") <|
    .text ");\n\n-- Users can update their own records\nCREATE POLICY \"Users can update own " <|
    .emit (.var "table") <|
    .text "\"\n  ON " <|
    .emit (.var "table") <|
    .text " FOR UPDATE\n  USING (auth.uid() = " <|
    .emit (.var "column") <|
    .text ");\n\n-- Users can delete their own records\nCREATE POLICY \"Users can delete own " <|
    .emit (.var "table") <|
    .text "\"\n  ON " <|
    .emit (.var "table") <|
    .text " FOR DELETE\n  USING (auth.uid() = " <|
    .emit (.var "column") <|
    .text ");\n" <|
    .done

def teamOwned : Packaged where
  category := "supabase"
  name := "rls_team_owned.sql"
  body :=
    .bind "members" (.literal "SELECT team_id FROM team_members WHERE user_id = auth.uid()") <|
    .text "-- RLS Policies for " <|
    .emit (.var "table") <|
    .text " (team-owned)\n\n-- Enable RLS\nALTER TABLE " <|
    .emit (.var "table") <|
    .text (" ENABLE ROW LEVEL SECURITY;\n\n-- Team members can view team records\n" ++
      "CREATE POLICY \"Team members can view ") <|
    .emit (.var "table") <|
    .text "\"\n  ON " <|
    .emit (.var "table") <|
    .text " FOR SELECT\n  USING (\n    " <|
    .emit (.var "column") <|
    .text " IN (" <|
    .emit (.var "members") <|
    .text (")\n  );\n\n-- Team members can create team records\n" ++
      "CREATE POLICY \"Team members can create ") <|
    .emit (.var "table") <|
    .text "\"\n  ON " <|
    .emit (.var "table") <|
    .text " FOR INSERT\n  WITH CHECK (\n    " <|
    .emit (.var "column") <|
    .text " IN (" <|
    .emit (.var "members") <|
    .text (")\n  );\n\n-- Team members can update team records\n" ++
      "CREATE POLICY \"Team members can update ") <|
    .emit (.var "table") <|
    .text "\"\n  ON " <|
    .emit (.var "table") <|
    .text " FOR UPDATE\n  USING (\n    " <|
    .emit (.var "column") <|
    .text " IN (" <|
    .emit (.var "members") <|
    .text (")\n  );\n\n-- Team admins can delete team records\n" ++
      "CREATE POLICY \"Team admins can delete ") <|
    .emit (.var "table") <|
    .text "\"\n  ON " <|
    .emit (.var "table") <|
    .text " FOR DELETE\n  USING (\n    " <|
    .emit (.var "column") <|
    .text " IN (" <|
    .emit (.var "members") <|
    .text " AND role = 'admin')\n  );\n" <|
    .done

def publicRead : Packaged where
  category := "supabase"
  name := "rls_public_read.sql"
  body :=
    .text "-- RLS Policies for " <|
    .emit (.var "table") <|
    .text " (public-read)\n\n-- Enable RLS\nALTER TABLE " <|
    .emit (.var "table") <|
    .text (" ENABLE ROW LEVEL SECURITY;\n\n-- Anyone can view records\n" ++
      "CREATE POLICY \"Anyone can view ") <|
    .emit (.var "table") <|
    .text "\"\n  ON " <|
    .emit (.var "table") <|
    .text (" FOR SELECT\n  USING (true);\n\n-- Only authenticated users can create records\n" ++
      "CREATE POLICY \"Authenticated users can create ") <|
    .emit (.var "table") <|
    .text "\"\n  ON " <|
    .emit (.var "table") <|
    .text (" FOR INSERT\n  WITH CHECK (auth.role() = 'authenticated');\n\n" ++
      "-- Only owners can update their records\nCREATE POLICY \"Owners can update ") <|
    .emit (.var "table") <|
    .text "\"\n  ON " <|
    .emit (.var "table") <|
    .text " FOR UPDATE\n  USING (auth.uid() = " <|
    .emit (.var "column") <|
    .text ");\n\n-- Only owners can delete their records\nCREATE POLICY \"Owners can delete " <|
    .emit (.var "table") <|
    .text "\"\n  ON " <|
    .emit (.var "table") <|
    .text " FOR DELETE\n  USING (auth.uid() = " <|
    .emit (.var "column") <|
    .text ");\n" <|
    .done

def adminOnly : Packaged where
  category := "supabase"
  name := "rls_admin_only.sql"
  body :=
    .bind "admin_check" (.literal "auth.uid() IN (SELECT user_id FROM admins)") <|
    .text "-- RLS Policies for " <|
    .emit (.var "table") <|
    .text " (admin-only)\n\n-- Enable RLS\nALTER TABLE " <|
    .emit (.var "table") <|
    .text (" ENABLE ROW LEVEL SECURITY;\n\n-- Only admins can view records\n" ++
      "CREATE POLICY \"Admins can view ") <|
    .emit (.var "table") <|
    .text "\"\n  ON " <|
    .emit (.var "table") <|
    .text " FOR SELECT\n  USING (\n    " <|
    .emit (.var "admin_check") <|
    .text "\n  );\n\n-- Only admins can create records\nCREATE POLICY \"Admins can create " <|
    .emit (.var "table") <|
    .text "\"\n  ON " <|
    .emit (.var "table") <|
    .text " FOR INSERT\n  WITH CHECK (\n    " <|
    .emit (.var "admin_check") <|
    .text "\n  );\n\n-- Only admins can update records\nCREATE POLICY \"Admins can update " <|
    .emit (.var "table") <|
    .text "\"\n  ON " <|
    .emit (.var "table") <|
    .text " FOR UPDATE\n  USING (\n    " <|
    .emit (.var "admin_check") <|
    .text "\n  );\n\n-- Only admins can delete records\nCREATE POLICY \"Admins can delete " <|
    .emit (.var "table") <|
    .text "\"\n  ON " <|
    .emit (.var "table") <|
    .text " FOR DELETE\n  USING (\n    " <|
    .emit (.var "admin_check") <|
    .text "\n  );\n" <|
    .done

inductive Policy
  | userOwned
  | teamOwned
  | publicRead
  | adminOnly
  deriving DecidableEq, Repr

namespace Policy

def all : List Policy := [userOwned, teamOwned, publicRead, adminOnly]

def word : Policy → String
  | userOwned => "user-owned"
  | teamOwned => "team-owned"
  | publicRead => "public-read"
  | adminOnly => "admin-only"

def template : Policy → Packaged
  | userOwned => Sql.userOwned
  | teamOwned => Sql.teamOwned
  | publicRead => Sql.publicRead
  | adminOnly => Sql.adminOnly

/-- The policy taken when none is named. -/
def default : Policy := userOwned

/-- The column that holds the owner of a row when no other is named. -/
def defaultColumn : String := "user_id"

end Policy

/-- The statements that put the policy that `policy` names on a table. -/
def policies (table policy column : String) : Except Failure String := do
  let policy ← choose "policy type" "types" Policy.word Policy.all policy
  Name.checkIdentifier table "table name"
  Name.checkIdentifier column "column name"
  policy.template.render [("table", .text table), ("column", .text column)]

end Scaffold.Sql
