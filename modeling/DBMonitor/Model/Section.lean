import DBMonitor.Model.Document

namespace DBMonitor

namespace Document

-- The slider's last stop, 300, is stored as -1 and means for ever.
def detectChangedSlider (value : Int) (d : Document) : Document :=
  { d with sliderValue := if value = 300 then -1 else value }

end Document

inductive Section where
  | clearUpdates (aHost : HostRef)
  | updateRow (now : Time) (aHost : HostRef) (row : QueryRow)
  | updateMySQLSlaveStatus (now : Time) (aHost : HostRef) (status : MysqlSlaveStatus)
  | updateMySQLFail (now : Time) (aHost : HostRef)
  | discardMySQLDead (aHost : HostRef)
  | refresh (now : Time) (order : List EntryRef)
  | sortDescriptorsDidChange (order : List EntryRef)
  | killProcess
  | select (row : Int)
  | edit (conf : Configuration)
  | detectChangedSlider (value : Int)
  | trackQuery (value : Int)

namespace Document

def exec (d : Document) : Section → Document
  | .clearUpdates aHost => d.clearUpdates aHost
  | .updateRow now aHost row => d.updateRow now aHost row
  | .updateMySQLSlaveStatus now aHost status => d.updateMySQLSlaveStatus now aHost (some status)
  | .updateMySQLFail now aHost => d.updateMySQLFail now aHost
  | .discardMySQLDead aHost => d.discardMySQLDead aHost
  | .refresh now order => d.refresh now order
  | .sortDescriptorsDidChange order => d.sortDescriptorsDidChange order
  | .killProcess => d.killProcess
  | .select row => d.selectRow row
  | .edit conf => { d with conf := conf }
  | .detectChangedSlider value => d.detectChangedSlider value
  | .trackQuery value => { d with trackQuery := value }

def runSections (d : Document) (sections : List Section) : Document := sections.foldl exec d

section Selection
variable (d : Document)

@[simp] theorem selectRow_dataList (row : Int) : (d.selectRow row).dataList = d.dataList := by
  unfold selectRow; split <;> rfl

@[simp] theorem selectRow_conf (row : Int) : (d.selectRow row).conf = d.conf := by
  unfold selectRow; split <;> rfl

@[simp] theorem selectRow_sliderValue (row : Int) :
    (d.selectRow row).sliderValue = d.sliderValue := by
  unfold selectRow; split <;> rfl

@[simp] theorem selectRow_trackQuery (row : Int) : (d.selectRow row).trackQuery = d.trackQuery := by
  unfold selectRow; split <;> rfl

def SameLog (a b : Document) : Prop :=
  a.dataList = b.dataList ∧ a.conf = b.conf ∧ a.sliderValue = b.sliderValue ∧
    a.trackQuery = b.trackQuery

theorem SameLog.refl : SameLog d d := ⟨rfl, rfl, rfl, rfl⟩

theorem SameLog.trans {a b c : Document} (h : SameLog a b) (k : SameLog b c) : SameLog a c :=
  ⟨h.1.trans k.1, h.2.1.trans k.2.1, h.2.2.1.trans k.2.2.1, h.2.2.2.trans k.2.2.2⟩

theorem selectRow_sameLog (row : Int) : SameLog (d.selectRow row) d := by simp [SameLog]

theorem alignSelection_sameLog : SameLog d.alignSelection.1 d := by
  unfold alignSelection
  split
  · exact SameLog.refl d
  · split
    · split <;> exact selectRow_sameLog d _
    · exact selectRow_sameLog d _

theorem selectEntry_sameLog (selected : EntryRef) : SameLog (d.selectEntry selected) d := by
  refine List.foldlRecOn d.items.zipIdx _ (motive := fun e => SameLog e d) (SameLog.refl d) ?_
  intro e he p _
  split
  · exact (selectRow_sameLog e _).trans he
  · exact he

theorem reselect_sameLog (selected : Option EntryRef) : SameLog (d.reselect selected) d := by
  unfold reselect
  split
  · exact SameLog.refl d
  · split
    · exact selectEntry_sameLog d _
    · exact selectRow_sameLog d _

theorem refresh_sameLog (now : Time) (order : List EntryRef) :
    SameLog (d.refresh now order) ((d.alignSelection.1.purge now).sortDataList order) :=
  reselect_sameLog _ _

theorem sortDescriptorsDidChange_sameLog (order : List EntryRef) :
    SameLog (d.sortDescriptorsDidChange order) (d.sortDataList order) := by
  unfold sortDescriptorsDidChange
  split
  · exact SameLog.refl _
  · exact selectEntry_sameLog _ _

end Selection

end Document

end DBMonitor
