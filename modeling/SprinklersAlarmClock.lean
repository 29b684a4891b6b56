import SprinklersAlarmClock.Logic.Prog
import SprinklersAlarmClock.Logic.Rules
import SprinklersAlarmClock.Logic.Frame
import SprinklersAlarmClock.Logic.Extend
import SprinklersAlarmClock.Logic.History
import SprinklersAlarmClock.Logic.Calendar
import SprinklersAlarmClock.Logic.Strobe
import SprinklersAlarmClock.Logic.Masks
import SprinklersAlarmClock.Firmware.Board
import SprinklersAlarmClock.Firmware.DS3231
import SprinklersAlarmClock.Firmware.Devices
import SprinklersAlarmClock.Firmware.Network
import SprinklersAlarmClock.Firmware.Sketch
import SprinklersAlarmClock.Firmware.Footprint
import SprinklersAlarmClock.Firmware.Readings
import SprinklersAlarmClock.Firmware.Rules
import SprinklersAlarmClock.Firmware.Outline
import SprinklersAlarmClock.Firmware.LiquidCrystal
import SprinklersAlarmClock.Firmware.Panel
import SprinklersAlarmClock.Firmware.ClockChip
import SprinklersAlarmClock.Verified.Actuators
import SprinklersAlarmClock.Verified.Dismissal
import SprinklersAlarmClock.Verified.Answered
import SprinklersAlarmClock.Verified.EditSession
import SprinklersAlarmClock.Verified.EditCalendar
import SprinklersAlarmClock.Verified.Refresh
import SprinklersAlarmClock.Verified.FreshDate
import SprinklersAlarmClock.Verified.Offline
import SprinklersAlarmClock.Verified.OnePress
import SprinklersAlarmClock.Verified.HeldButton
import SprinklersAlarmClock.Verified.Energised
import SprinklersAlarmClock.Verified.AlarmFlag
import SprinklersAlarmClock.Verified.LcdLink
import SprinklersAlarmClock.Verified.Glass
import SprinklersAlarmClock.Verified.ClockDate
import SprinklersAlarmClock.Verified.ClockSettings
import SprinklersAlarmClock.Verified.ChipAlarm
import SprinklersAlarmClock.Logic.Slots
import SprinklersAlarmClock.Logic.Fallible
import SprinklersAlarmClock.Firmware.Pwm
import SprinklersAlarmClock.Verified.PwmTable
import SprinklersAlarmClock.Verified.PwmAttach
import SprinklersAlarmClock.Verified.PwmCalls
import SprinklersAlarmClock.Verified.PwmWaves
import SprinklersAlarmClock.Verified.Outputs
