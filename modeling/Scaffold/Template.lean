import Scaffold.Error
import Scaffold.Text.Search
/-!
# Template — the texts of the four artifacts

Every entity gets a migration, a model class and an admin resource; a migration either creates the table or updates
it.  Each artifact has a built-in template and the name of the stub file that replaces it.

A marker is a key between double braces.  Filling goes through the keys in order and replaces every marker of a key by
its value as it stands.  Nothing is escaped; a marker inside a value is filled only by a key that comes later.
-/
namespace Scaffold

/-- What a generated file is. -/
inductive ArtifactKind where
  | createMigration
  | updateMigration
  | model
  | resource
  deriving Repr, DecidableEq

namespace ArtifactKind

/-- The words by which a report names the artifact. -/
def label : ArtifactKind → String
  | .createMigration => "create migration"
  | .updateMigration => "update migration"
  | .model => "model"
  | .resource => "filament resource"

def isMigration : ArtifactKind → Bool
  | .createMigration | .updateMigration => true
  | _ => false

/-- The stub file that replaces the built-in template. -/
def stubName : ArtifactKind → String
  | .createMigration => "migration.stub"
  | .updateMigration => "update_migration.stub"
  | .model => "model.stub"
  | .resource => "filament_resource.stub"

end ArtifactKind

namespace Template

/-- The text of the lines, each ended by a line feed. -/
def ofLines (lines : List String) : String := String.join (lines.map (· ++ "\n"))

def createMigration : String := ofLines [
  "<?php",
  "",
  "use Illuminate\\Database\\Migrations\\Migration;",
  "use Illuminate\\Database\\Schema\\Blueprint;",
  "use Illuminate\\Support\\Facades\\Schema;",
  "",
  "return new class extends Migration",
  "\x7b",
  "    /**",
  "     * Run the migrations.",
  "     */",
  "    public function up(): void",
  "    \x7b",
  "        Schema::create('\x7b\x7btable\x7d\x7d', function (Blueprint $table) \x7b",
  "            \x7b\x7bcolumns\x7d\x7d",
  "        \x7d);",
  "    \x7d",
  "",
  "    /**",
  "     * Reverse the migrations.",
  "     */",
  "    public function down(): void",
  "    \x7b",
  "        Schema::dropIfExists('\x7b\x7btable\x7d\x7d');",
  "    \x7d",
  "\x7d;"]

def updateMigration : String := ofLines [
  "<?php",
  "",
  "use Illuminate\\Database\\Migrations\\Migration;",
  "use Illuminate\\Database\\Schema\\Blueprint;",
  "use Illuminate\\Support\\Facades\\Schema;",
  "",
  "return new class extends Migration",
  "\x7b",
  "    /**",
  "     * Run the migrations.",
  "     */",
  "    public function up(): void",
  "    \x7b",
  "        Schema::table('\x7b\x7btable\x7d\x7d', function (Blueprint $table) \x7b",
  "            \x7b\x7bcolumns\x7d\x7d",
  "        \x7d);",
  "    \x7d",
  "",
  "    /**",
  "     * Reverse the migrations.",
  "     */",
  "    public function down(): void",
  "    \x7b",
  "        Schema::table('\x7b\x7btable\x7d\x7d', function (Blueprint $table) \x7b",
  "            \x7b\x7bdropColumns\x7d\x7d",
  "        \x7d);",
  "    \x7d",
  "\x7d;"]

def model : String := ofLines [
  "<?php",
  "",
  "namespace App\\Models;",
  "",
  "use Illuminate\\Database\\Eloquent\\Factories\\HasFactory;",
  "use Illuminate\\Database\\Eloquent\\Model;",
  "",
  "class \x7b\x7bmodel\x7d\x7d extends Model",
  "\x7b",
  "    use HasFactory;",
  "",
  "    protected $table = '\x7b\x7btable\x7d\x7d';",
  "",
  "    protected $fillable = [\x7b\x7bfillable\x7d\x7d];",
  "",
  "    protected $hidden = [\x7b\x7bhidden\x7d\x7d];",
  "",
  "    \x7b\x7brelations\x7d\x7d",
  "\x7d"]

def resource : String := ofLines [
  "<?php",
  "",
  "namespace App\\Filament\\Resources;",
  "",
  "use App\\Models\\\x7b\x7bmodel\x7d\x7d;",
  "use Filament\\Forms;",
  "use Filament\\Forms\\Form;",
  "use Filament\\Resources\\Resource;",
  "use Filament\\Tables;",
  "use Filament\\Tables\\Table;",
  "",
  "class \x7b\x7bmodel\x7d\x7dResource extends Resource",
  "\x7b",
  "    protected static ?string $model = \x7b\x7bmodel\x7d\x7d::class;",
  "",
  "    protected static ?string $navigationIcon = 'heroicon-o-rectangle-stack';",
  "",
  "    public static function form(Form $form): Form",
  "    \x7b",
  "        return $form",
  "            ->schema([",
  "                \x7b\x7bformFields\x7d\x7d",
  "            ]);",
  "    \x7d",
  "",
  "    public static function table(Table $table): Table",
  "    \x7b",
  "        return $table",
  "            ->columns([",
  "                \x7b\x7btableColumns\x7d\x7d",
  "            ]);",
  "    \x7d",
  "\x7d"]

/-- The built-in template of an artifact. -/
def builtin : ArtifactKind → String
  | .createMigration => createMigration
  | .updateMigration => updateMigration
  | .model => model
  | .resource => resource

end Template

end Scaffold

/-! ## Filling -/

namespace Scaffold.Template

def marker (key : String) : List Char := ['\x7b', '\x7b'] ++ key.toList ++ ['\x7d', '\x7d']

/-- Fills the markers of one key. -/
def fillKey (text : List Char) (entry : String × String) : List Char :=
  Text.replaceAll (marker entry.1) entry.2.toList text

/-- Fills the markers of the keys, one key after the other. -/
def fill (template : String) (entries : List (String × String)) : String :=
  String.ofList (entries.foldl fillKey template.toList)

/-! ## Stubs -/

open Disk (Path)

/-- Loads the template of an artifact: the stub in the directory of the stubs if there is one, or else the built-in
template.  A stub that cannot be read is an error. -/
def load (d : Disk) (stubs : Option Path) (kind : ArtifactKind) : Except Error String :=
  match stubs with
  | none => .ok (builtin kind)
  | some directory =>
    let stub := directory.join ⟨kind.stubName⟩
    if d.occupied stub then (d.readText stub).mapError fun f => .unreadable stub (.disk f)
    else .ok (builtin kind)

end Scaffold.Template
